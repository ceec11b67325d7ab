import StructuredLog.Proofs.Generation.Soundness
import StructuredLog.Proofs.HostType.Canonical
import StructuredLog.Proofs.Identifier.Naming
import StructuredLog.Proofs.Migration.Parameters

/-! # Declaring — what a migration declares, the generator can use

    The parameters that serve a call have the types of their roles, since a
    canonical name is assignable to its known type, and they have names that
    are not reserved.  So a declaration with these parameters is sound as soon
    as its own name is not reserved and, unless its level is constant, its level
    parameter is taken for the level (`isSound_declare`). -/

namespace StructuredLog

theorem CallRoles.isNone_constantLevel? (roles : CallRoles) :
    roles.constantLevel?.isNone = roles.levelIndex?.isSome := by
  rw [constantLevel?, levelIndex?]
  cases roles.level with
  | constant level => rfl
  | argument index => rfl

variable {table : TypeFacts} {options : MigrationOptions} {generator : GeneratorOptions}
  {call : AdHocCall} {roles : CallRoles} {s : SortedParameters}

/-- The parameters that serve a call have the types of their roles. -/
theorem hasRoleTypes_of_serves (htable : table.Reachable)
    (hs : s.Serves (.ofTable table) options call roles) :
    s.HasRoleTypes table.system roles.constantLevel? := by
  constructor
  · rw [roles.isNone_constantLevel?]
    rcases hs.level with ⟨hconstant, hnone⟩ | ⟨hsought, type, htype, hsome⟩
    · exact .inl ⟨hconstant, hnone⟩
    · exact .inr ⟨hsought, _, hsome, htable.isAssignable_of_canonical? htype⟩
  · rcases hs.exception with ⟨-, hnone⟩ | ⟨-, type, htype, hsome⟩
    · exact .inl hnone
    · exact .inr ⟨_, hsome, htable.isAssignable_of_canonical? htype⟩

/-- A level that is no exception is taken for the level. -/
theorem SortedParameters.HasRoleTypes.exists_level {system : TypeSystem} {level? : Option Level}
    (h : s.HasRoleTypes system level?)
    (hlevel : ∀ l ∈ s.level, system.assignable l.type .exception = false)
    (hsought : level?.isNone = true) : ∃ a ∈ assignRoles system level? s.all, a.role = .level := by
  rcases h.level with ⟨hconstant, -⟩ | ⟨-, l, hl, htype⟩
  · rw [hsought] at hconstant
    exact nomatch hconstant
  · have hnot := hlevel l (hl ▸ List.mem_singleton_self l)
    rw [s.assignRoles_all, hsought, hl, List.append_assoc, List.singleton_append,
      assignRolesRest_cons_level (fun _ => hnot) htype]
    exact ⟨_, List.mem_cons_of_mem _ List.mem_cons_self, rfl⟩

/-- The parameters have names that are not reserved, and are passed by value. -/
theorem forall_mem_all (hs : s.Serves (.ofTable table) options call roles)
    (hinitial : options.reservedInitial = '_') :
    ∀ p ∈ s.all, Identifier.startsReserved '_' p.name = false ∧ p.mode = .value := by
  intro p hp
  rcases List.mem_cons.mp hp with rfl | hp
  · obtain ⟨type, -, hlogger⟩ := hs.logger
    rw [hlogger]
    exact ⟨show Identifier.startsReserved '_' Identifier.loggerParameter = false by decide, rfl⟩
  rcases List.mem_append.mp hp with hp | hregular
  · rcases List.mem_append.mp hp with hlevel | hexception
    · obtain ⟨-, type, -, rfl⟩ := hs.of_mem_level hlevel
      exact ⟨show Identifier.startsReserved '_' Identifier.levelParameter = false by decide, rfl⟩
    · obtain ⟨-, type, -, rfl⟩ := hs.of_mem_exception hexception
      exact ⟨show Identifier.startsReserved '_' Identifier.exceptionParameter = false by decide, rfl⟩
  · refine ⟨?_, hs.modes p hregular⟩
    have hname : p.name ∈ call.templateNames options roles := by
      rw [← hs.names]
      exact List.mem_map_of_mem hregular
    rw [AdHocCall.templateNames, hinitial] at hname
    exact Identifier.startsReserved_parameterNames (by decide) hname

/-- **A declaration for a call is sound**, under a name that is not reserved, if its
    level is constant or found again. -/
theorem isSound_declare (htable : table.Reachable)
    (hs : s.Serves (.ofTable table) options call roles)
    (hinitial : options.reservedInitial = '_') (hreserved : generator.reservedInitial = '_')
    (hlevel : roles.constantLevel?.isNone = true →
      ∃ a ∈ assignRoles table.system roles.constantLevel? s.all, a.role = .level)
    {name : String} (hname : Identifier.startsReserved '_' name = false) (eventId : Int32) :
    ((MethodWish.mk roles s.all).declare name eventId).IsSound table.system generator where
  name_free := by
    rw [GeneratorOptions.isReserved, hreserved]
    exact hname
  returns_void := rfl
  static := rfl
  stub := rfl
  bodiless := rfl
  not_generic := rfl
  logger := by
    obtain ⟨type, htype, hlogger⟩ := hs.logger
    refine ⟨s.logger, rfl, ?_⟩
    rw [hlogger]
    exact htable.isAssignable_of_canonical? htype
  parameters := by
    intro p hp
    rw [GeneratorOptions.isReserved, hreserved]
    exact forall_mem_all hs hinitial p hp
  level := by
    cases hconstant : roles.constantLevel? with
    | some level => exact .inl (congrArg Option.isSome hconstant)
    | none => exact .inr (hlevel (Option.isNone_iff_eq_none.mpr hconstant))

end StructuredLog
