import StructuredLog.Proofs.Generation.Plan
import StructuredLog.Proofs.Statement.Roles

/-! # Soundness — which declarations have a plan

    Each check reports an error exactly when its condition fails, and problems
    of the template are never errors.  So a declaration is usable exactly when
    it is sound (`isUsable_problems_iff`), and since soundness includes a source
    of the level, every sound declaration has a plan
    (`exists_plan_iff_isSound`). -/

namespace StructuredLog

/-! ## Usable diagnostics -/

@[simp] theorem isUsable_nil : isUsable [] = true := rfl

@[simp] theorem isUsable_append (ds es : List Diagnostic) :
    isUsable (ds ++ es) = (isUsable ds && isUsable es) := by
  simp only [isUsable, List.any_append, Bool.not_or]

theorem isUsable_iff {ds : List Diagnostic} :
    isUsable ds = true ↔ ∀ d ∈ ds, d.isError = false := by
  simp only [isUsable, Bool.not_eq_true', List.any_eq_false, Bool.not_eq_true]

theorem isUsable_reportIf {failed : Bool} {d : Diagnostic} (h : d.isError = true) :
    isUsable (reportIf failed d) = !failed := by
  cases failed with
  | false => rfl
  | true => simp only [reportIf, isUsable, if_true, List.any_cons, h, Bool.true_or]

theorem isUsable_reportIf_of_warning {failed : Bool} {d : Diagnostic} (h : d.isError = false) :
    isUsable (reportIf failed d) = true := by
  cases failed with
  | false => rfl
  | true =>
      simp only [reportIf, isUsable, if_true, List.any_cons, h, List.any_nil, Bool.or_false,
        Bool.not_false]

theorem isUsable_flatMap_iff {α : Type} {as : List α} {report : α → List Diagnostic} :
    isUsable (as.flatMap report) = true ↔ ∀ a ∈ as, isUsable (report a) = true := by
  simp only [isUsable_iff, List.mem_flatMap]
  constructor
  · intro h a ha d hd
    exact h d ⟨a, ha, hd⟩
  · rintro h d ⟨a, ha, hd⟩
    exact h a ha d hd

/-! ## Sound declarations -/

/-- What the checks ask of a declaration. -/
structure Declaration.IsSound (system : TypeSystem) (options : GeneratorOptions)
    (d : Declaration) : Prop where
  name_free : options.isReserved d.name = false
  returns_void : d.returns = .void
  static : d.isStatic = true
  stub : d.isPartial = true
  bodiless : d.hasBody = false
  not_generic : d.genericArity = 0
  logger : ∃ p, d.parameters.head? = some p ∧ system.assignable p.type .logger = true
  parameters : ∀ p ∈ d.parameters, options.isReserved p.name = false ∧ p.mode = .value
  level : d.marking.level?.isSome = true ∨ ∃ a ∈ d.arguments system, a.role = .level

variable {system : TypeSystem} {options : GeneratorOptions} {d : Declaration}

/-! ## The declaration -/

/-- The checks of the method itself find no error exactly if it is a static stub that returns
    nothing, has no body and no type parameters, and has a free name. -/
theorem isUsable_declarationProblems_iff :
    isUsable (declarationProblems options d) = true ↔
      options.isReserved d.name = false ∧ d.returns = .void ∧ d.isStatic = true ∧
        d.isPartial = true ∧ d.hasBody = false ∧ d.genericArity = 0 := by
  rw [declarationProblems]
  simp only [isUsable_append]
  rw [isUsable_reportIf rfl, isUsable_reportIf rfl, isUsable_reportIf rfl, isUsable_reportIf rfl,
    isUsable_reportIf rfl]
  cases d.returns with
  | void =>
      simp only [isUsable_nil, Bool.and_true, Bool.and_eq_true, Bool.not_eq_true', Bool.not_not,
        decide_eq_false_iff_not, Nat.not_lt, Nat.le_zero, and_assoc, true_and]
  | value type =>
      refine iff_of_false ?_ (fun h => nomatch h.2.1)
      intro h
      simp only [Bool.and_eq_true] at h
      exact nomatch h.1.1.1.1.2

/-! ## The parameters -/

theorem Declaration.forall₂_arguments (system : TypeSystem) (d : Declaration) :
    List.Forall₂ (fun a p => ∃ role, a = p.inRole role) (d.arguments system) d.parameters :=
  forall₂_assignRoles system d.marking.level? d.parameters

theorem isUsable_argumentProblems_iff {a : Argument} {mode : PassingMode} :
    isUsable (argumentProblems options a mode) = true ↔
      options.isReserved a.name = false ∧ mode = .value := by
  rw [argumentProblems]
  rw [isUsable_append, isUsable_reportIf rfl, isUsable_reportIf rfl, Bool.and_eq_true,
    Bool.not_eq_true', Bool.not_eq_true', decide_eq_false_iff_not, not_not]

/-- The checks of the parameters one by one find no error exactly if every name is free and every
    parameter is passed by value. -/
theorem isUsable_flatMap_argumentProblems_iff {as : List Argument} {ps : List Parameter}
    (h : List.Forall₂ (fun a p => ∃ role, a = p.inRole role) as ps) :
    isUsable ((as.zip ps).flatMap fun (a, p) => argumentProblems options a p.mode) = true ↔
      ∀ p ∈ ps, options.isReserved p.name = false ∧ p.mode = .value := by
  induction h with
  | nil => exact iff_of_true rfl (fun _ hp => nomatch hp)
  | @cons a p as ps hap _ ih =>
      obtain ⟨role, rfl⟩ := hap
      rw [List.zip_cons_cons, List.flatMap_cons, isUsable_append, Bool.and_eq_true, ih,
        isUsable_argumentProblems_iff, List.forall_mem_cons]
      rfl

/-- The check for a logger finds no error exactly if the first parameter can take one. -/
theorem isUsable_loggerProblems_iff {as : List Argument} {ps : List Parameter}
    (h : List.Forall₂ (fun a p => ∃ role, a = p.inRole role) as ps) :
    isUsable (loggerProblems system d as) = true ↔
      ∃ p, ps.head? = some p ∧ system.assignable p.type .logger = true := by
  cases h with
  | nil =>
      refine iff_of_false (fun h => nomatch h) ?_
      rintro ⟨p, hp, -⟩
      exact nomatch hp
  | @cons a p as ps hap _ =>
      obtain ⟨role, rfl⟩ := hap
      rw [loggerProblems]
      rw [isUsable_reportIf rfl, Bool.not_not]
      constructor
      · intro hlogger
        exact ⟨p, rfl, hlogger⟩
      · rintro ⟨p', hp', hlogger⟩
        obtain rfl := Option.some.inj hp'
        exact hlogger

/-! ## The level -/

/-- The check for a level finds no error exactly if the mark gives one or an argument does. -/
theorem isUsable_levelProblems_iff {as : List Argument} :
    isUsable (levelProblems d as) = true ↔
      d.marking.level?.isSome = true ∨ ∃ a ∈ as, a.role = .level := by
  rw [levelProblems]
  rw [isUsable_reportIf rfl]
  cases hlevel : d.marking.level? with
  | some level => exact iff_of_true rfl (.inl rfl)
  | none =>
      rw [Option.isNone_none, Bool.true_and, Bool.not_not, List.any_eq_true]
      simp only [decide_eq_true_eq, Option.isSome_none, Bool.false_eq_true, false_or]

/-! ## The template -/

/-- Problems of the template are warnings. -/
theorem isUsable_templateProblems (d : Declaration) (as : List Argument) :
    isUsable (templateProblems d as) = true := by
  have hmention : ∀ a, isUsable (mentionProblems (Template.names d.marking.message) a) = true := by
    intro a
    rw [mentionProblems]
    cases a.role <;> exact isUsable_reportIf_of_warning rfl
  rw [templateProblems]
  simp only [isUsable_append, Bool.and_eq_true]
  refine ⟨⟨⟨isUsable_reportIf_of_warning rfl, ?_⟩, isUsable_flatMap_iff.mpr fun a _ => hmention a⟩,
    ?_⟩
  · cases leadingLevelWord? d.marking.message <;> rfl
  · refine isUsable_iff.mpr ?_
    intro e he
    obtain ⟨p, -, rfl⟩ := List.mem_map.mp he
    rfl

/-! ## Plans -/

/-- **A declaration is usable exactly when it is sound.** -/
theorem isUsable_problems_iff :
    isUsable (problems system options d (d.arguments system)) = true ↔
      d.IsSound system options := by
  have hparameters := d.forall₂_arguments system
  rw [problems, parameterProblems]
  rw [isUsable_append, isUsable_append, isUsable_append, isUsable_append,
    isUsable_templateProblems, Bool.and_true, Bool.and_eq_true, Bool.and_eq_true, Bool.and_eq_true,
    isUsable_declarationProblems_iff, isUsable_loggerProblems_iff hparameters,
    isUsable_flatMap_argumentProblems_iff hparameters, isUsable_levelProblems_iff]
  constructor
  · rintro ⟨⟨⟨hname, hreturns, hstatic, hpartial, hbody, hgeneric⟩, hlogger, hps⟩, hlevel⟩
    exact ⟨hname, hreturns, hstatic, hpartial, hbody, hgeneric, hlogger, hps, hlevel⟩
  · intro h
    exact ⟨⟨⟨h.name_free, h.returns_void, h.static, h.stub, h.bodiless, h.not_generic⟩, h.logger,
      h.parameters⟩, h.level⟩

/-- A sound declaration has a source of its level. -/
theorem Declaration.IsSound.exists_levelSource (h : d.IsSound system options) :
    ∃ level, d.levelSource? system = some level := by
  rw [levelSource?]
  cases hlevel : d.marking.level? with
  | some level => exact ⟨_, rfl⟩
  | none =>
      rcases h.level with hsome | ⟨a, ha, hrole⟩
      · rw [hlevel] at hsome
        injection hsome
      · have hfound : (firstInRole? (d.arguments system) .level).isSome = true :=
          List.find?_isSome.mpr ⟨a, ha, beq_iff_eq.mpr hrole⟩
        obtain ⟨first, hfirst⟩ := Option.isSome_iff_exists.mp hfound
        exact ⟨.parameter first.name, by rw [hfirst]; rfl⟩

/-- **A declaration has a plan exactly when it is sound.** -/
theorem exists_plan_iff_isSound :
    (∃ plan, (d.generate system options).plan? = some plan) ↔ d.IsSound system options := by
  constructor
  · rintro ⟨plan, hplan⟩
    exact isUsable_problems_iff.mp (Declaration.plan?_generate_eq_some_iff.mp hplan).1
  · intro h
    obtain ⟨level, hlevel⟩ := h.exists_levelSource
    exact ⟨_, Declaration.plan?_generate_eq_some_iff.mpr
      ⟨isUsable_problems_iff.mpr h, level, hlevel, rfl⟩⟩

end StructuredLog
