import StructuredLog.Proofs.Generation.Mentions
import StructuredLog.Proofs.Migration.Acceptance
import StructuredLog.Proofs.Migration.Preservation

/-! # Clean declarations — well-named calls give methods without warnings

    The generator knows nothing of the call that a method was minted for.  It
    sorts the parameters by their types, matches the regular ones with the
    placeholders up to case, and all with them exactly.  When every placeholder
    of a call can name its argument, the parameters come out as they were
    meant (`SortedParameters.TellsApart.assignRoles_all_eq`), those of special
    roles have names that no placeholder has, and the regular ones are named
    as the placeholders are.  So the three rules agree, on any number of
    arguments and whatever special arguments the call has
    (`well_named_call_declares_cleanly`). -/

namespace StructuredLog

open Template Text

variable {table : TypeFacts} {options : MigrationOptions} {generator : GeneratorOptions}
  {call : AdHocCall} {roles : CallRoles} {s : SortedParameters}

/-- The placeholders are names for the arguments of the template: one for each, all of
    them different. -/
structure AdHocCall.IsWellNamed (call : AdHocCall) (roles : CallRoles) : Prop where
  length_eq : (call.templateArguments roles).length = (names roles.template).length
  canName : ∀ q ∈ names roles.template, Identifier.CanName '_' q
  nodup : (names roles.template).Nodup

theorem AdHocCall.IsWellNamed.templateNames_eq (h : call.IsWellNamed roles)
    (hinitial : options.reservedInitial = '_') :
    call.templateNames options roles = names roles.template := by
  rw [templateNames, hinitial, h.length_eq]
  exact Identifier.parameterNames_eq_self h.canName h.nodup

/-- A parameter is of a special role, and has the name of that role, or it is regular. -/
theorem SortedParameters.Serves.of_mem_arguments (htable : table.Reachable)
    (hs : s.Serves (.ofTable table) options call roles) (hapart : s.TellsApart table.system)
    (hlevel : table.LevelIsNoException) {a : Argument}
    (ha : a ∈ assignRoles table.system roles.constantLevel? s.all) :
    (a.role ≠ .regular ∧ a.name ∈ Identifier.specialNames) ∨
      ∃ p ∈ s.regular, a = p.inRole .regular := by
  rw [hapart.assignRoles_all_eq (hasRoleTypes_of_serves htable hs) (hlevel.of_mem_level hs)] at ha
  rcases List.mem_cons.mp ha with rfl | hrest
  · obtain ⟨type, -, hlogger⟩ := hs.logger
    rw [hlogger]
    exact .inl ⟨Role.noConfusion,
      show Identifier.loggerParameter ∈ Identifier.specialNames by decide⟩
  rcases List.mem_append.mp hrest with hspecial | hregular
  · rcases List.mem_append.mp hspecial with hmem | hmem
    · obtain ⟨l, hl, rfl⟩ := List.mem_map.mp hmem
      obtain ⟨-, type, -, rfl⟩ := hs.of_mem_level hl
      exact .inl ⟨Role.noConfusion,
        show Identifier.levelParameter ∈ Identifier.specialNames by decide⟩
    · obtain ⟨e, he, rfl⟩ := List.mem_map.mp hmem
      obtain ⟨-, type, -, rfl⟩ := hs.of_mem_exception he
      exact .inl ⟨Role.noConfusion,
        show Identifier.exceptionParameter ∈ Identifier.specialNames by decide⟩
  · obtain ⟨p, hp, rfl⟩ := List.mem_map.mp hregular
    exact .inr ⟨p, hp, rfl⟩

/-- **A well-named call's declaration mentions its regular parameters** and nothing else. -/
theorem mentionsRegular_declare (htable : table.Reachable) (hlevel : table.LevelIsNoException)
    (hs : s.Serves (.ofTable table) options call roles) (hapart : s.TellsApart table.system)
    (hinitial : options.reservedInitial = '_') (hnamed : call.IsWellNamed roles)
    (name : String) (eventId : Int32) :
    ((MethodWish.mk roles s.all).declare name eventId).MentionsRegular table.system := by
  have hnames : s.regular.map Parameter.name = names roles.template :=
    hs.names.trans (hnamed.templateNames_eq hinitial)
  refine ⟨?_, ?_, ?_⟩
  · intro a ha hrole
    rcases hs.of_mem_arguments htable hapart hlevel ha with ⟨hspecial, -⟩ | ⟨p, hp, rfl⟩
    · exact absurd hrole hspecial
    · refine ⟨p.name, ?_, sameFolded_self p.name⟩
      show p.name ∈ names roles.template
      rw [← hnames]
      exact List.mem_map_of_mem hp
  · intro a ha hrole hmem
    rcases hs.of_mem_arguments htable hapart hlevel ha with ⟨-, hspecial⟩ | ⟨p, hp, rfl⟩
    · exact (hnamed.canName a.name hmem).2.2 hspecial
    · exact hrole rfl
  · intro q hq
    have hq : q ∈ names roles.template := hq
    rw [← hnames] at hq
    obtain ⟨p, hp, rfl⟩ := List.mem_map.mp hq
    show p.name ∈ (assignRoles table.system roles.constantLevel? s.all).map Argument.name
    rw [hapart.assignRoles_all_eq (hasRoleTypes_of_serves htable hs) (hlevel.of_mem_level hs)]
    refine List.mem_map.mpr ⟨p.inRole .regular, ?_, rfl⟩
    exact List.mem_cons_of_mem _ (List.mem_append_right _ (List.mem_map_of_mem hp))

/-- **Well-named calls migrate to clean declarations.**  If no canonical level is an
    exception, the placeholders of a call are names for its arguments, and none of
    these is an exception unless the call passes one, then a method that is minted
    for the call, in whatever store, can be generated without a warning about what
    its template mentions.  Its regular parameters are the arguments of the template in
    their order, with their types and the names of the placeholders, and they go by
    position exactly if the level is constant and they are few enough. -/
theorem well_named_call_declares_cleanly {σ : Type} {host : Host σ} {state : σ}
    {fix : MigratedCall} (htable : table.Reachable) (hlevel : table.LevelIsNoException)
    (hinitial : options.reservedInitial = '_') (hreserved : generator.reservedInitial = '_')
    (hroles : call.roles (.ofTable table) = .ok roles)
    (hfix : ((call.migrate (.ofTable table) options).run host state).1 = .ok fix)
    (hminted : fix.isReused = false)
    (hnamed : call.IsWellNamed roles)
    (hexception : roles.exception?.isSome = false → ∀ a ∈ call.templateArguments roles,
      ∀ type, a.type? = some type → table.isAssignable type .exception = false) :
    ∃ plan, (fix.declaration.generate table.system generator).plan? = some plan ∧
      (∀ e ∈ (fix.declaration.generate table.system generator).diagnostics,
        e.code ∉ mentionCodes) ∧
      plan.statement.regular.map Argument.name = names roles.template ∧
      List.Forall₂ (fun (a : CallArgument) (b : Argument) => a.type? = some b.type)
        (call.templateArguments roles) plan.statement.regular ∧
      ((∃ types, plan.payload = .positional types) ↔
        roles.constantLevel?.isSome = true ∧
          (call.templateArguments roles).length ≤ generator.maxPositional) := by
  obtain ⟨⟨wished, parameters⟩, span, d, isReused, hwish, rfl, hgranted⟩ :=
    AdHocCall.exists_granted_of_migrate hfix
  obtain ⟨n, eventId, rfl⟩ := hgranted.minted hminted
  have hsound := isSound_declare_nthName htable hlevel hinitial hreserved hwish n eventId
  obtain rfl : wished = roles :=
    Except.ok.inj ((AdHocCall.wish_eq_ok_iff.mp hwish).1.symm.trans hroles)
  obtain ⟨s, rfl, hs⟩ := SortedParameters.exists_serves hwish
  have hapart : s.TellsApart table.system := by
    refine (keepsRoles_iff_tellsApart hs).mp ⟨?_, hexception⟩
    intro _ type htype hswapped
    exact absurd hswapped (ne_true_of_eq_false (hlevel type htype))
  obtain ⟨plan, hplan⟩ := exists_plan_iff_isSound.mpr hsound
  have hregular := regular_of_plan?_declare htable hs hapart hplan
  have hnames : plan.statement.regular.map Argument.name = names wished.template := by
    rw [hregular, List.map_map, ← hnamed.templateNames_eq hinitial]
    exact hs.names
  have htypes : List.Forall₂ (fun (a : CallArgument) (b : Argument) => a.type? = some b.type)
      (call.templateArguments wished) plan.statement.regular := by
    rw [hregular, List.forall₂_map_right_iff]
    exact hs.types
  have hlines : plan.statement.linesUp = true := by
    rw [Statement.linesUp_iff_forall₂, hnames, Declaration.placeholders_of_plan? hplan]
    exact List.forall₂_same.mpr fun q _ => sameFolded_self q
  refine ⟨plan, hplan, code_not_mem_mentionCodes hsound
    (mentionsRegular_declare htable hlevel hs hapart hinitial hnamed _ eventId), hnames, htypes, ?_⟩
  rw [Declaration.exists_positional_iff hplan, and_iff_left hlines, htypes.length_eq]
  exact and_comm

/-- A call of constant level with an event id, an exception, and two named placeholders. -/
def overdue : AdHocCall where
  method := "LogWarning"
  receiver := { text := "_logger", type? := some "ILogger" }
  arguments :=
    [{ text := "id", type? := some "EventId" }, { text := "e", type? := some "Exception" },
      .ofText "Order \x7bOrder\x7d is \x7bdays,3\x7d days late",
      { text := "order", type? := some "string" }, { text := "n", type? := some "int" }]

/-- The roles of its arguments. -/
def overdueRoles : CallRoles :=
  ⟨.constant .warning, some 0, some 1, "Order \x7bOrder\x7d is \x7bdays,3\x7d days late", 2⟩

/-- The method that is minted for it. -/
def overdueMethod : Declaration where
  name := "OrderOrderIsDays3DaysLate"
  parameters :=
    [{ name := "logger", type := "ILogger" }, { name := "exception", type := "Exception" },
      { name := "Order", type := "string" }, { name := "days", type := "int" }]
  marking :=
    { eventId := 0, level? := some .warning
      message := "Order \x7bOrder\x7d is \x7bdays,3\x7d days late" }

/-- Its arguments go by position as soon as two may. -/
theorem well_named_call_declares_cleanly_overdue :
    ((overdue.migrate (.ofTable .conventional) {}).run Store.host .empty).1
        = .ok (overdue.fix {} overdueRoles .nowhere overdueMethod false) ∧
      ∀ maxPositional : Nat, ∃ plan,
        (overdueMethod.generate TypeFacts.conventional.system { maxPositional }).plan? = some plan ∧
          plan.statement.regular.map Argument.name = ["Order", "days"] ∧
          ((∃ types, plan.payload = .positional types) ↔ 2 ≤ maxPositional) := by
  have hlevel : TypeFacts.conventional.LevelIsNoException := by
    intro type htype
    obtain rfl := Option.some.inj htype
    decide
  have hroles : overdue.roles (.ofTable .conventional) = .ok overdueRoles := by
    decide +kernel
  have hfix : ((overdue.migrate (.ofTable .conventional) {}).run Store.host .empty).1
      = .ok (overdue.fix {} overdueRoles .nowhere overdueMethod false) := by
    decide +kernel
  have hnamed : overdue.IsWellNamed overdueRoles :=
    ⟨by decide +kernel, by decide +kernel, by decide +kernel⟩
  refine ⟨hfix, fun maxPositional => ?_⟩
  obtain ⟨plan, hplan, -, hnames, -, hpositional⟩ :=
    well_named_call_declares_cleanly TypeFacts.reachable_conventional hlevel rfl
      (show ({ maxPositional } : GeneratorOptions).reservedInitial = '_' from rfl) hroles hfix rfl
      hnamed (fun hnone => absurd hnone.symm Bool.false_ne_true)
  refine ⟨plan, hplan, hnames.trans (by decide +kernel), hpositional.trans ?_⟩
  exact and_iff_right rfl

end StructuredLog
