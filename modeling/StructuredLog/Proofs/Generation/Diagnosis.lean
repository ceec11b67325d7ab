import StructuredLog.HostType.Facts
import StructuredLog.Proofs.Generation.Soundness

/-! # Diagnosis — what generation reports, and when it gives up

    Every diagnostic of one declaration is about that method: the checks know
    nothing of other methods, and the report that a method lost its level is
    never made, since a usable declaration has a source of its level
    (`Declaration.diagnostics_generate`).  So a declaration is dropped exactly
    when a reported problem is an error
    (`Declaration.plan?_generate_eq_none_iff`).

    With the rules for parameters written out, a method is generated exactly
    when its declaration is sound (`generates_sound_declarations`). -/

namespace StructuredLog

variable {system : TypeSystem} {options : GeneratorOptions} {d : Declaration}

/-! ## Codes of one method -/

/-- Whether a code reports a problem of one method on its own. -/
def Code.isOfMethod : Code → Bool
  | .repeatedEventId | .internalError | .errorLimit => false
  | _ => true

theorem Code.isOfMethod_ne_internalError {code : Code} (h : code.isOfMethod = true) :
    code ≠ .internalError := by
  rintro rfl
  exact nomatch h

theorem Code.isOfMethod_ne_repeatedEventId {code : Code} (h : code.isOfMethod = true) :
    code ≠ .repeatedEventId := by
  rintro rfl
  exact nomatch h

/-- The diagnostics report problems of one method on its own. -/
def AreOfMethod (ds : List Diagnostic) : Prop :=
  ∀ e ∈ ds, e.code.isOfMethod = true

theorem areOfMethod_nil : AreOfMethod [] :=
  fun _ he => nomatch he

theorem areOfMethod_singleton {e : Diagnostic} (h : e.code.isOfMethod = true) :
    AreOfMethod [e] :=
  List.forall_mem_singleton.mpr h

theorem AreOfMethod.append {ds es : List Diagnostic} (hds : AreOfMethod ds)
    (hes : AreOfMethod es) : AreOfMethod (ds ++ es) :=
  List.forall_mem_append.mpr ⟨hds, hes⟩

theorem areOfMethod_map {α : Type} {report : α → Diagnostic}
    (h : ∀ a, (report a).code.isOfMethod = true) (as : List α) : AreOfMethod (as.map report) :=
  List.forall_mem_map.mpr fun a _ => h a

theorem areOfMethod_flatMap {α : Type} {report : α → List Diagnostic}
    (h : ∀ a, AreOfMethod (report a)) (as : List α) : AreOfMethod (as.flatMap report) := by
  intro e he
  obtain ⟨a, -, hea⟩ := List.mem_flatMap.mp he
  exact h a e hea

theorem areOfMethod_reportIf (failed : Bool) {e : Diagnostic} (h : e.code.isOfMethod = true) :
    AreOfMethod (reportIf failed e) := by
  cases failed with
  | false => exact areOfMethod_nil
  | true => exact areOfMethod_singleton h

/-! ## The checks -/

theorem areOfMethod_declarationProblems (options : GeneratorOptions) (d : Declaration) :
    AreOfMethod (declarationProblems options d) := by
  rw [declarationProblems]
  refine .append (.append (.append (.append (.append ?_ ?_) ?_) ?_) ?_) ?_
  case refine_2 =>
    cases d.returns with
    | void => exact areOfMethod_nil
    | value type => exact areOfMethod_singleton rfl
  all_goals exact areOfMethod_reportIf _ rfl

theorem areOfMethod_parameterProblems (system : TypeSystem) (options : GeneratorOptions)
    (d : Declaration) (as : List Argument) :
    AreOfMethod (parameterProblems system options d as) := by
  rw [parameterProblems]
  refine .append ?_ (areOfMethod_flatMap ?_ _)
  · cases as with
    | nil => exact areOfMethod_singleton rfl
    | cons a as => exact areOfMethod_reportIf _ rfl
  · rintro ⟨a, p⟩
    exact (areOfMethod_reportIf _ rfl).append (areOfMethod_reportIf _ rfl)

theorem areOfMethod_templateProblems (d : Declaration) (as : List Argument) :
    AreOfMethod (templateProblems d as) := by
  rw [templateProblems]
  refine .append (.append (.append (areOfMethod_reportIf _ rfl) ?_) (areOfMethod_flatMap ?_ _))
    (areOfMethod_map (fun _ => rfl) _)
  · cases leadingLevelWord? d.marking.message with
    | none => exact areOfMethod_nil
    | some word => exact areOfMethod_singleton rfl
  · intro a
    rw [mentionProblems]
    cases a.role <;> exact areOfMethod_reportIf _ rfl

theorem areOfMethod_problems (system : TypeSystem) (options : GeneratorOptions)
    (d : Declaration) (as : List Argument) : AreOfMethod (problems system options d as) :=
  .append (.append (.append (areOfMethod_declarationProblems options d)
    (areOfMethod_parameterProblems system options d as)) (areOfMethod_reportIf _ rfl))
    (areOfMethod_templateProblems d as)

theorem areOfMethod_timestampWarnings (system : TypeSystem) (as : List Argument) :
    AreOfMethod (timestampWarnings system as) :=
  areOfMethod_map (fun _ => rfl) _

theorem isUsable_timestampWarnings (system : TypeSystem) (as : List Argument) :
    isUsable (timestampWarnings system as) = true := by
  refine isUsable_iff.mpr ?_
  intro e he
  obtain ⟨a, -, rfl⟩ := List.mem_map.mp he
  rfl

/-! ## The diagnostics of a method -/

namespace Declaration

/-- A usable declaration has a source of its level, so its level is never lost: the
    diagnostics are what the checks find. -/
theorem diagnostics_generate (system : TypeSystem) (options : GeneratorOptions)
    (d : Declaration) :
    (d.generate system options).diagnostics
      = timestampWarnings system (d.arguments system)
        ++ problems system options d (d.arguments system) := by
  rw [generate]
  by_cases husable : isUsable (problems system options d (d.arguments system)) = true
  · obtain ⟨level, hlevel⟩ := (isUsable_problems_iff.mp husable).exists_levelSource
    rw [if_pos husable, hlevel]
  · rw [if_neg husable]

theorem areOfMethod_diagnostics (system : TypeSystem) (options : GeneratorOptions)
    (d : Declaration) : AreOfMethod (d.generate system options).diagnostics := by
  rw [diagnostics_generate]
  exact (areOfMethod_timestampWarnings system _).append (areOfMethod_problems system options d _)

/-- A declaration is sound exactly when no diagnostic is an error. -/
theorem isSound_iff_isUsable_diagnostics :
    d.IsSound system options ↔ isUsable (d.generate system options).diagnostics = true := by
  rw [diagnostics_generate, isUsable_append, isUsable_timestampWarnings, Bool.true_and,
    isUsable_problems_iff]

/-- **A method is dropped exactly when an error is reported on it.** -/
theorem plan?_generate_eq_none_iff :
    (d.generate system options).plan? = none ↔
      ∃ e ∈ (d.generate system options).diagnostics, e.isError = true := by
  rw [Option.eq_none_iff_forall_ne_some, ← not_exists, exists_plan_iff_isSound,
    isSound_iff_isUsable_diagnostics, isUsable_iff]
  simp only [not_forall, Bool.not_eq_false, exists_prop]

/-! ## The level -/

/-- The place of the exception among the parameters after the first: the first one of
    an exception type. -/
def exceptionIndex? (system : TypeSystem) (d : Declaration) : Option Nat :=
  d.parameters.tail.findIdx? (system.assignable ·.type .exception)

/-- A declaration without a constant level takes it from a parameter of a level type
    that is not the exception. -/
theorem exists_level_arguments_iff (h : d.marking.level? = none) :
    (∃ a ∈ d.arguments system, a.role = .level) ↔
      ∃ i p, d.parameters.tail[i]? = some p ∧ system.assignable p.type .level = true ∧
        d.exceptionIndex? system ≠ some i := by
  rw [arguments, exceptionIndex?, h]
  cases d.parameters with
  | nil =>
      refine iff_of_false ?_ ?_
      · rintro ⟨a, ha, -⟩
        exact absurd ha List.not_mem_nil
      · rintro ⟨i, p, hp, -⟩
        exact absurd hp.symm (Option.some_ne_none p)
  | cons p ps =>
      show (∃ a ∈ p.inRole .loggerHandle :: assignRolesRest system true true ps, a.role = .level) ↔ _
      rw [exists_level_cons_iff, or_iff_right Role.noConfusion]
      exact exists_level_assignRolesRest_iff

end Declaration

/-- **A method is generated exactly when its declaration is sound**, it is dropped
    exactly when an error is reported on it, and the generator itself never fails. -/
theorem generates_sound_declarations (system : TypeSystem) (options : GeneratorOptions)
    (d : Declaration) :
    ((d.generate system options).plan?.isSome = true ↔
      options.isReserved d.name = false ∧
        (∀ p ∈ d.parameters, options.isReserved p.name = false) ∧
        d.returns = .void ∧ d.isStatic = true ∧ d.isPartial = true ∧ d.hasBody = false ∧
        d.genericArity = 0 ∧
        (∃ p, d.parameters.head? = some p ∧ system.assignable p.type .logger = true) ∧
        (∀ p ∈ d.parameters, p.mode = .value) ∧
        (d.marking.level?.isSome = true ∨
          ∃ i p, d.parameters.tail[i]? = some p ∧ system.assignable p.type .level = true ∧
            d.exceptionIndex? system ≠ some i)) ∧
    ((d.generate system options).plan? = none ↔
      ∃ e ∈ (d.generate system options).diagnostics, e.isError = true) ∧
    ∀ e ∈ (d.generate system options).diagnostics, e.code ≠ .internalError := by
  refine ⟨?_, Declaration.plan?_generate_eq_none_iff,
    fun e he => Code.isOfMethod_ne_internalError (d.areOfMethod_diagnostics system options e he)⟩
  -- a parameter gives the level only where the level is not constant
  have hlevel : (d.marking.level?.isSome = true ∨ ∃ a ∈ d.arguments system, a.role = .level) ↔
      (d.marking.level?.isSome = true ∨
        ∃ i p, d.parameters.tail[i]? = some p ∧ system.assignable p.type .level = true ∧
          d.exceptionIndex? system ≠ some i) := by
    cases hconstant : d.marking.level? with
    | some level => exact iff_of_true (.inl rfl) (.inl rfl)
    | none => rw [Declaration.exists_level_arguments_iff hconstant]
  rw [Option.isSome_iff_exists, exists_plan_iff_isSound, ← hlevel]
  constructor
  · intro h
    exact ⟨h.name_free, fun p hp => (h.parameters p hp).1, h.returns_void, h.static, h.stub,
      h.bodiless, h.not_generic, h.logger, fun p hp => (h.parameters p hp).2, h.level⟩
  · rintro ⟨hname, hfree, hreturns, hstatic, hstub, hbody, hgeneric, hlogger, hmodes, hlevel⟩
    exact ⟨hname, hreturns, hstatic, hstub, hbody, hgeneric, hlogger,
      fun p hp => ⟨hfree p hp, hmodes p hp⟩, hlevel⟩

/-- Types of which one is both an exception and a level. -/
def TypeFacts.faulty : TypeFacts :=
  TypeFacts.empty |>.define .logger "ILogger" |>.define .exception "Fault" |>.register "Fault" .level

/-- A method without a constant level that is about nothing but faults. -/
def faultMethod (faults : List String) : Declaration where
  name := "ReportFault"
  parameters :=
    { name := "logger", type := "ILogger" } :: faults.map fun name => { name, type := "Fault" }
  marking := { eventId := 1, level? := none, message := "" }

/-- One fault is only the exception; of two, the second gives the level. -/
theorem generates_sound_declarations_faults :
    ((faultMethod ["cause"]).generate TypeFacts.faulty.system {}).plan? = none ∧
      ((faultMethod ["cause", "severity"]).generate TypeFacts.faulty.system {}).plan?.isSome
        = true := by
  constructor
  · exact (generates_sound_declarations _ _ _).2.1.mpr (by decide +kernel)
  · refine (generates_sound_declarations _ _ _).1.mpr ?_
    exact ⟨by decide, by decide, by decide, by decide, by decide, by decide, by decide,
      ⟨_, rfl, by decide⟩, by decide, .inr ⟨1, _, rfl, by decide, by decide⟩⟩

end StructuredLog
