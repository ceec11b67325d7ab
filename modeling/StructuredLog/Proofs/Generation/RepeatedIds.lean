import Mathlib.Data.List.Induction
import Mathlib.Data.List.Nodup
import StructuredLog.Proofs.Generation.Container

/-! # Repeated ids — what a container makes of one declaration after another

    The declarations of a container are generated one by one.  Each of them adds
    its method, if it has one, and what it reports; all that is kept for the next
    ones is which declaration used an event id first, and a dropped one counts
    like any other (`generateContainer_concat`).

    So the methods are those of the declarations that have one, in order, and
    the diagnostics are a report for each declaration: its own diagnostics, and
    one warning more exactly if its event id was used before
    (`isGeneratedFrom_generateContainer`).  The warning names the declaration that
    used it first, and shows where that one stands (`NamesFirstUse`).  Without
    such a warning no event id is used twice, be it by methods or by dropped
    declarations (`forall_code_ne_repeatedEventId_iff`). -/

namespace StructuredLog

variable {system : TypeSystem} {options : GeneratorOptions} {earlier ds : List Declaration}
  {d : Declaration}

/-! ## The first to use an event id -/

/-- The declaration is the first one of the event id. -/
def IsFirstToUse (ds : List Declaration) (id : Int32) (first : Declaration) : Prop :=
  ∃ before after, ds = before ++ first :: after ∧ first.marking.eventId = id ∧
    ∀ other ∈ before, other.marking.eventId ≠ id

/-- A search by event id finds the first declaration of the id. -/
theorem isFirstToUse_iff {id : Int32} {first : Declaration} :
    IsFirstToUse ds id first ↔ ds.find? (·.marking.eventId == id) = some first := by
  rw [List.find?_eq_some_iff_append]
  constructor
  · rintro ⟨before, after, hds, hid, hbefore⟩
    exact ⟨beq_iff_eq.mpr hid, before, after, hds, fun other hother =>
      Bool.not_eq_true' _ ▸ beq_false_of_ne (hbefore other hother)⟩
  · rintro ⟨hid, before, after, hds, hbefore⟩
    exact ⟨before, after, hds, beq_iff_eq.mp hid, fun other hother =>
      ne_of_beq_false (Bool.not_eq_true' _ ▸ hbefore other hother)⟩

/-- The diagnostic says that the declaration repeats the event id of an earlier one: it
    names both, and points at this one first and then at the earlier one. -/
structure NamesFirstUse (d first : Declaration) (e : Diagnostic) : Prop where
  code : e.code = .repeatedEventId
  message : e.message = "event id " ++ toString d.marking.eventId.toInt ++ " of `" ++ d.name
    ++ "` is already used by `" ++ first.name ++ "`"
  labels : e.labels
    = [⟨d.span, "duplicate event id", true⟩, ⟨first.span, "first used here", false⟩]
  notes : e.notes = []
  suggestions : e.suggestions = []

/-- The warning about a repeated event id names the first use of it. -/
theorem namesFirstUse (d first : Declaration) :
    NamesFirstUse d first (repeatedIdWarning d first) where
  code := rfl
  message := by
    have hof : " of `" = " of " ++ "`" := rfl
    have hby : "` is already used by `" = "`" ++ " is already used by " ++ "`" := rfl
    rw [hof, hby]
    simp only [repeatedIdWarning, ticked, String.append_assoc]
  labels := rfl
  notes := rfl
  suggestions := rfl

/-- What is said of a declaration after the earlier ones: what it reports itself, and one
    warning more, about the first to use its event id, exactly if that was used before. -/
inductive IsReport (system : TypeSystem) (options : GeneratorOptions)
    (earlier : List Declaration) (d : Declaration) : List Diagnostic → Prop where
  | new (hnew : ∀ other ∈ earlier, other.marking.eventId ≠ d.marking.eventId) :
      IsReport system options earlier d (d.generate system options).diagnostics
  | repeated {first : Declaration} {e : Diagnostic}
      (hfirst : IsFirstToUse earlier d.marking.eventId first) (hwarning : NamesFirstUse d first e) :
      IsReport system options earlier d ((d.generate system options).diagnostics ++ [e])

/-- Whatever came before a declaration, its share of the diagnostics is one of the two reports. -/
theorem isReport (system : TypeSystem) (options : GeneratorOptions)
    (earlier : List Declaration) (d : Declaration) :
    IsReport system options earlier d
      ((d.generate system options).diagnostics ++ repeatedIdWarnings earlier d) := by
  rw [repeatedIdWarnings]
  cases hfound : earlier.find? (·.marking.eventId == d.marking.eventId) with
  | none =>
      rw [List.append_nil]
      refine .new ?_
      intro other hother
      exact ne_of_beq_false (Bool.eq_false_iff.mpr (List.find?_eq_none.mp hfound other hother))
  | some first => exact .repeated (isFirstToUse_iff.mpr hfound) (namesFirstUse d first)

/-! ## One declaration more -/

/-- The declarations that a method is generated for. -/
def keptDeclarations (system : TypeSystem) (options : GeneratorOptions) (ds : List Declaration) :
    List Declaration :=
  ds.filter fun d => (d.generate system options).plan?.isSome

theorem keptDeclarations_concat_of_some {plan : MethodPlan}
    (h : (d.generate system options).plan? = some plan) (ds : List Declaration) :
    keptDeclarations system options (ds ++ [d]) = keptDeclarations system options ds ++ [d] := by
  rw [keptDeclarations, List.filter_append, List.filter_cons_of_pos (by rw [h]; rfl)]
  rfl

theorem keptDeclarations_concat_of_none (h : (d.generate system options).plan? = none)
    (ds : List Declaration) :
    keptDeclarations system options (ds ++ [d]) = keptDeclarations system options ds := by
  rw [keptDeclarations, List.filter_append,
    List.filter_cons_of_neg (by rw [h]; exact Bool.false_ne_true)]
  exact List.append_nil _

theorem containerDiagnostics_concat (earlier ds : List Declaration) (d : Declaration) :
    containerDiagnostics system options earlier (ds ++ [d])
      = containerDiagnostics system options earlier ds
        ++ ((d.generate system options).diagnostics ++ repeatedIdWarnings (earlier ++ ds) d) := by
  induction ds generalizing earlier with
  | nil => simp only [List.nil_append, List.append_nil, containerDiagnostics]
  | cons d' ds ih =>
      simp only [List.cons_append, containerDiagnostics, ih, List.nil_append, List.append_assoc]

/-- The output after one declaration more, which the given ones precede. -/
def GeneratedContainer.add (system : TypeSystem) (options : GeneratorOptions)
    (out : GeneratedContainer) (earlier : List Declaration) (d : Declaration) :
    GeneratedContainer :=
  let method := d.generate system options
  { container := if method.plan?.isSome then out.container.push d.signature else out.container
    plans := out.plans ++ method.plan?.toList
    diagnostics := out.diagnostics ++ (method.diagnostics ++ repeatedIdWarnings earlier d) }

/-- **Declarations are generated one by one**: each adds to what the earlier ones gave. -/
theorem generateContainer_concat (name : String) (ds : List Declaration) (d : Declaration) :
    generateContainer system options name (ds ++ [d])
      = (generateContainer system options name ds).add system options ds d := by
  show GeneratedContainer.mk (.ofDeclarations name (keptDeclarations system options (ds ++ [d])))
    (List.filterMap _ _) (containerDiagnostics system options [] (ds ++ [d])) = _
  rw [containerDiagnostics_concat, List.nil_append, List.filterMap_append, List.filterMap_cons,
    GeneratedContainer.add]
  cases hplan : (d.generate system options).plan? with
  | none =>
      rw [keptDeclarations_concat_of_none hplan]
      rfl
  | some plan =>
      rw [keptDeclarations_concat_of_some hplan, ← Container.push_ofDeclarations]
      rfl

/-! ## All declarations -/

/-- The output has the methods of the declarations that have one, in order, and a report
    for each declaration. -/
structure IsGeneratedFrom (system : TypeSystem) (options : GeneratorOptions)
    (ds : List Declaration) (out : GeneratedContainer) : Prop where
  plans : List.Forall₂ (fun d plan => (d.generate system options).plan? = some plan)
    (keptDeclarations system options ds) out.plans
  methods : out.container.methods
    = (keptDeclarations system options ds).map Declaration.signature
  reports : ∃ reports : List (List Diagnostic),
    out.diagnostics = reports.flatten ∧ reports.length = ds.length ∧
    ∀ (i : Nat) (d : Declaration), ds[i]? = some d →
      ∃ report, reports[i]? = some report ∧ IsReport system options (ds.take i) d report

theorem isGeneratedFrom_nil (name : String) :
    IsGeneratedFrom system options [] (generateContainer system options name []) where
  plans := .nil
  methods := rfl
  reports := ⟨[], rfl, rfl, fun _ _ h => nomatch h⟩

/-- A declaration more leaves the reports of the earlier ones as they are. -/
theorem IsGeneratedFrom.add {out : GeneratedContainer}
    (h : IsGeneratedFrom system options ds out) (d : Declaration) :
    IsGeneratedFrom system options (ds ++ [d]) (out.add system options ds d) where
  plans := by
    show List.Forall₂ _ _ (out.plans ++ (d.generate system options).plan?.toList)
    cases hplan : (d.generate system options).plan? with
    | none =>
        rw [keptDeclarations_concat_of_none hplan, Option.toList_none, List.append_nil]
        exact h.plans
    | some plan =>
        rw [keptDeclarations_concat_of_some hplan]
        exact List.rel_append h.plans (.cons hplan .nil)
  methods := by
    rw [GeneratedContainer.add]
    cases hplan : (d.generate system options).plan? with
    | none =>
        rw [keptDeclarations_concat_of_none hplan]
        exact h.methods
    | some plan =>
        rw [keptDeclarations_concat_of_some hplan, List.map_append, ← h.methods]
        rfl
  reports := by
    obtain ⟨reports, hflatten, hlength, hreports⟩ := h.reports
    refine ⟨reports ++ [(d.generate system options).diagnostics ++ repeatedIdWarnings ds d],
      ?_, ?_, ?_⟩
    · rw [List.flatten_append, ← hflatten]
      exact congrArg (out.diagnostics ++ ·) (List.append_nil _).symm
    · rw [List.length_append, List.length_append, hlength, List.length_singleton,
        List.length_singleton]
    · intro i d' hd'
      rcases Nat.lt_or_ge i ds.length with hlt | hge
      · rw [List.getElem?_append_left hlt] at hd'
        rw [List.getElem?_append_left (hlength ▸ hlt),
          List.take_append_of_le_length (Nat.le_of_lt hlt)]
        exact hreports i d' hd'
      · -- the last place is that of the new declaration
        rw [List.getElem?_append_right hge] at hd'
        obtain ⟨hi, hget⟩ := List.getElem?_eq_some_iff.mp hd'
        obtain rfl : i = ds.length := by
          rw [List.length_singleton] at hi
          omega
        obtain rfl : d = d' := by simpa using hget
        rw [← hlength, List.getElem?_concat_length, hlength, List.take_left]
        exact ⟨_, rfl, isReport system options ds d⟩

/-- **A container is what its declarations make of it**, one after another. -/
theorem isGeneratedFrom_generateContainer (name : String) (ds : List Declaration) :
    IsGeneratedFrom system options ds (generateContainer system options name ds) := by
  induction ds using List.reverseRecOn with
  | nil => exact isGeneratedFrom_nil name
  | append_singleton ds d ih =>
      rw [generateContainer_concat]
      exact ih.add d

/-! ## Distinct event ids -/

/-- A declaration draws no warning exactly if its event id is not in use before it. -/
theorem forall_mem_repeatedIdWarnings_iff :
    (∀ e ∈ repeatedIdWarnings earlier d, e.code ≠ .repeatedEventId) ↔
      d.marking.eventId ∉ earlier.map (·.marking.eventId) := by
  rw [List.mem_map]
  constructor
  · rintro h ⟨other, hother, hid⟩
    have hfound : (earlier.find? (·.marking.eventId == d.marking.eventId)).isSome = true :=
      List.find?_isSome.mpr ⟨other, hother, beq_iff_eq.mpr hid⟩
    obtain ⟨first, hfirst⟩ := Option.isSome_iff_exists.mp hfound
    rw [repeatedIdWarnings, hfirst] at h
    exact h _ List.mem_cons_self rfl
  · intro h e he
    rw [repeatedIdWarnings_of_forall_ne fun other hother hid => h ⟨other, hother, hid⟩] at he
    exact absurd he List.not_mem_nil

/-- **No warning means no repeat**, and the other way round. -/
theorem forall_code_ne_repeatedEventId_iff :
    (∀ e ∈ containerDiagnostics system options [] ds, e.code ≠ .repeatedEventId) ↔
      (ds.map (·.marking.eventId)).Nodup := by
  induction ds using List.reverseRecOn with
  | nil => exact iff_of_true (fun _ he => nomatch he) .nil
  | append_singleton ds d ih =>
      have hown : ∀ e ∈ (d.generate system options).diagnostics, e.code ≠ .repeatedEventId :=
        fun e he => Code.isOfMethod_ne_repeatedEventId (d.areOfMethod_diagnostics system options e he)
      rw [containerDiagnostics_concat, List.forall_mem_append, List.forall_mem_append, ih,
        and_iff_right hown, List.nil_append, forall_mem_repeatedIdWarnings_iff, List.map_append,
        List.map_singleton, ← List.concat_eq_append, List.nodup_concat, and_comm]

/-- **A container keeps the order of its declarations and flags each repeated event id.**
    Its methods are those of the declarations that have one, with their signatures, and
    its diagnostics are a report for each declaration: its own diagnostics, and one
    warning more, about the first to use its event id, exactly if that one comes before
    it.  So without such a warning the methods have distinct event ids. -/
theorem container_flags_repeated_ids (system : TypeSystem) (options : GeneratorOptions)
    (name : String) (ds : List Declaration) :
    let out := generateContainer system options name ds
    let kept := keptDeclarations system options ds
    out.container.name = name ∧
      -- the methods
      List.Forall₂ (fun d plan => (d.generate system options).plan? = some plan) kept out.plans ∧
      (out.container.methods = kept.map fun d =>
        ⟨d.name, ⟨d.parameters.map Parameter.type, d.marking.level?, d.marking.message⟩,
          d.marking.eventId⟩) ∧
      -- the diagnostics
      (∃ reports : List (List Diagnostic),
        out.diagnostics = reports.flatten ∧ reports.length = ds.length ∧
        ∀ (i : Nat) (d : Declaration), ds[i]? = some d →
          ∃ report, reports[i]? = some report ∧ IsReport system options (ds.take i) d report) ∧
      -- the event ids
      ((∀ e ∈ out.diagnostics, e.code ≠ .repeatedEventId) ↔
        (ds.map (·.marking.eventId)).Nodup) ∧
      ((∀ e ∈ out.diagnostics, e.code ≠ .repeatedEventId) →
        (out.container.methods.map Signature.eventId).Nodup) := by
  have h : IsGeneratedFrom system options ds (generateContainer system options name ds) :=
    isGeneratedFrom_generateContainer name ds
  refine ⟨rfl, h.plans, h.methods, h.reports, forall_code_ne_repeatedEventId_iff, ?_⟩
  intro hnone
  have hnodup := forall_code_ne_repeatedEventId_iff.mp hnone
  rw [h.methods, List.map_map]
  exact hnodup.sublist (List.filter_sublist.map _)

/-- A method that says hello. -/
def helloMethod (name : String) (eventId : Int32) (level? : Option Level) : Declaration where
  name := name
  parameters := [{ name := "logger", type := "ILogger" }]
  marking := { eventId, level?, message := "Hello" }

/-- The last of three methods uses the event id of the first, which is dropped for want of
    a level. -/
def repeatedHello : List Declaration :=
  [{ helloMethod "Hello" 7 none with span := ⟨10, 20⟩ }, helloMethod "Later" 8 (some .debug),
    { helloMethod "Again" 7 (some .debug) with span := ⟨40, 50⟩ }]

/-- A method that is dropped for want of a level has used its event id all the same. -/
theorem container_flags_repeated_ids_dropped :
    (∀ e ∈ (generateContainer TypeFacts.conventional.system {} "Log"
        [helloMethod "Hello" 7 none, helloMethod "Later" 8 (some .debug)]).diagnostics,
      e.code ≠ .repeatedEventId) ∧
    ((generateContainer TypeFacts.conventional.system {} "Log"
        [helloMethod "Hello" 7 none, helloMethod "Later" 8 (some .debug)]).container.methods.map
      Signature.eventId).Nodup ∧
    (¬∀ e ∈ (generateContainer TypeFacts.conventional.system {} "Log" repeatedHello).diagnostics,
      e.code ≠ .repeatedEventId) ∧
    ∃ e ∈ (generateContainer TypeFacts.conventional.system {} "Log" repeatedHello).diagnostics,
      e.code = .repeatedEventId ∧
        e.message = "event id 7 of `Again` is already used by `Hello`" ∧
        e.labels = [⟨⟨40, 50⟩, "duplicate event id", true⟩, ⟨⟨10, 20⟩, "first used here", false⟩]
    := by
  have hdistinct : ∀ e ∈ (generateContainer TypeFacts.conventional.system {} "Log"
      [helloMethod "Hello" 7 none, helloMethod "Later" 8 (some .debug)]).diagnostics,
      e.code ≠ .repeatedEventId := by
    decide +kernel
  obtain ⟨-, -, -, ⟨reports, hflatten, -, hreports⟩, hnone_iff, -⟩ :=
    container_flags_repeated_ids TypeFacts.conventional.system {} "Log" repeatedHello
  refine ⟨hdistinct, (container_flags_repeated_ids _ _ _ _).2.2.2.2.2 hdistinct, ?_, ?_⟩
  · intro hnone
    exact absurd (hnone_iff.mp hnone) (by decide)
  · obtain ⟨report, hreport, hof⟩ := hreports 2 _ rfl
    cases hof with
    | new hnew => exact absurd hnew (by decide)
    | @repeated first e hfirst hwarning =>
        obtain rfl := Option.some.inj (isFirstToUse_iff.mp hfirst)
        refine ⟨e, ?_, hwarning.code, hwarning.message, hwarning.labels⟩
        rw [hflatten, List.mem_flatten]
        exact ⟨_, List.mem_of_getElem? hreport, List.mem_append_right _ List.mem_cons_self⟩

end StructuredLog
