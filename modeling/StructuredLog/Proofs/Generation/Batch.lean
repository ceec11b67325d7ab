import Mathlib.Data.List.Count
import StructuredLog.Generation.Batch
import StructuredLog.Proofs.Diagnostic.History
import StructuredLog.Proofs.Generation.RepeatedIds

/-! # Batches — failing exactly when something was dropped

    A batch generates each of its containers as if it were the only one, in the
    order of the input.  A container has errors exactly if one of its declarations
    was dropped (`hasErrors_generateContainer_iff`), which shows in the number of
    its plans.

    The queue of a batch may drop errors as repeats or at the limit, but never
    the first one that arrives; so a batch fails exactly if one of its containers
    has errors, and then at least one of these is among its diagnostics
    (`batch_fails_iff_dropped`).  The summary is an error itself, but stands only
    where others do. -/

namespace StructuredLog

variable {system : TypeSystem}

/-! ## Containers -/

/-- **A container has errors exactly if a declaration was dropped.** -/
theorem hasErrors_generateContainer_iff {options : GeneratorOptions} {ds : List Declaration}
    (name : String) :
    (generateContainer system options name ds).hasErrors = true ↔
      ∃ d ∈ ds, (d.generate system options).plan? = none := by
  rw [GeneratedContainer.hasErrors, List.any_eq_true]
  constructor
  · rintro ⟨e, he, herror⟩
    rcases mem_containerDiagnostics he with ⟨d, hd, he⟩ | hcode
    · exact ⟨d, hd, Declaration.plan?_generate_eq_none_iff.mpr ⟨e, he, herror⟩⟩
    · rw [Diagnostic.isError, Diagnostic.severity, hcode] at herror
      exact absurd herror Bool.false_ne_true
  · rintro ⟨d, hd, hnone⟩
    obtain ⟨e, he, herror⟩ := Declaration.plan?_generate_eq_none_iff.mp hnone
    exact ⟨e, mem_containerDiagnostics_of_mem hd he, herror⟩

/-- The plans of a container are fewer than its declarations exactly if one was
    dropped. -/
theorem length_plans_lt_iff {options : GeneratorOptions} {ds : List Declaration} (name : String) :
    (generateContainer system options name ds).plans.length < ds.length ↔
      ∃ d ∈ ds, (d.generate system options).plan? = none := by
  show (ds.filterMap _).length < _ ↔ _
  rw [List.length_filterMap_eq_countP, List.countP_lt_length_iff]
  simp only [Option.isSome_eq_false_iff, Option.isNone_iff_eq_none]

/-! ## Batches -/

variable {options : BatchOptions} {inputs : List ContainerSource}

/-- The queue that the diagnostics of a batch go through. -/
def batchQueue (options : BatchOptions) (containers : List GeneratedContainer) : ReportQueue :=
  (ReportQueue.empty options.diagnostics).extend
    (containers.flatMap GeneratedContainer.diagnostics)

theorem consistent_batchQueue (options : BatchOptions) (containers : List GeneratedContainer) :
    (batchQueue options containers).Consistent :=
  (ReportQueue.consistent_empty options.diagnostics).extend _

/-- The queue of a batch has an error exactly if one of the containers brings one, whatever
    its limit. -/
theorem hasErrors_batchQueue_iff {containers : List GeneratedContainer} :
    (batchQueue options containers).hasErrors = true ↔ ∃ c ∈ containers, c.hasErrors = true := by
  have hempty : (ReportQueue.empty options.diagnostics).hasErrors ≠ true := Bool.false_ne_true
  rw [batchQueue, (ReportQueue.consistent_empty _).hasErrors_extend_iff, or_iff_right hempty]
  simp only [GeneratedContainer.hasErrors, List.any_eq_true, List.mem_flatMap]
  constructor
  · rintro ⟨e, ⟨c, hc, he⟩, herror⟩
    exact ⟨c, hc, e, he, herror⟩
  · rintro ⟨c, hc, e, he, herror⟩
    exact ⟨e, ⟨c, hc, he⟩, herror⟩

/-- An error that is queued comes from a container. -/
theorem exists_error_of_hasErrors {containers : List GeneratedContainer}
    (h : (batchQueue options containers).hasErrors = true) :
    ∃ c ∈ containers, ∃ e ∈ c.diagnostics, e.isError = true ∧
      e ∈ (batchQueue options containers).flushed := by
  obtain ⟨e, he, herror⟩ := (consistent_batchQueue options containers).hasErrors_iff.mp h
  have hflushed := ReportQueue.mem_flushed he
  rcases ReportQueue.mem_queued_extend he with hempty | hdiagnostics
  · exact absurd hempty List.not_mem_nil
  · obtain ⟨c, hc, hmem⟩ := List.mem_flatMap.mp hdiagnostics
    exact ⟨c, hc, e, hmem, herror, hflushed⟩

/-- Without an error nothing was dropped at the limit, so there is no summary. -/
theorem isError_of_mem_flushed {containers : List GeneratedContainer} {e : Diagnostic}
    (h : (batchQueue options containers).hasErrors = false)
    (he : e ∈ (batchQueue options containers).flushed) : e.isError = false := by
  have hconsistent := consistent_batchQueue options containers
  have hoverflowed : (batchQueue options containers).overflowed = false := by
    rw [← Bool.not_eq_true] at h ⊢
    exact fun hmark =>
      h (ReportQueue.hasErrors_of_limitReached (hconsistent.limitReached_of_overflowed hmark))
  rw [← Bool.not_eq_true] at h ⊢
  exact fun herror => h (hconsistent.hasErrors_iff.mpr
    ⟨e, ReportQueue.mem_queued_of_mem_flushed hoverflowed he, herror⟩)

/-- **Each container is generated on its own**, in the order of the input. -/
theorem containers_generateBatch :
    (generateBatch system options inputs).containers = inputs.map fun input =>
      generateContainer system options.generator input.name input.declarations :=
  rfl

/-- A container has errors exactly if it loses one of the declarations of an input. -/
theorem exists_hasErrors_iff :
    (∃ c ∈ (generateBatch system options inputs).containers, c.hasErrors = true) ↔
      ∃ input ∈ inputs, ∃ d ∈ input.declarations,
        (d.generate system options.generator).plan? = none := by
  rw [containers_generateBatch]
  constructor
  · rintro ⟨c, hc, herrors⟩
    obtain ⟨input, hinput, rfl⟩ := List.mem_map.mp hc
    exact ⟨input, hinput, (hasErrors_generateContainer_iff input.name).mp herrors⟩
  · rintro ⟨input, hinput, hdropped⟩
    exact ⟨_, List.mem_map_of_mem hinput, (hasErrors_generateContainer_iff input.name).mpr hdropped⟩

/-- A batch loses declarations of one of its inputs exactly if the container at the place of
    that input has fewer plans. -/
theorem exists_fewer_plans_iff :
    (∃ (i : Nat) (input : ContainerSource) (c : GeneratedContainer),
        inputs[i]? = some input ∧
        (generateBatch system options inputs).containers[i]? = some c ∧
        c.plans.length < input.declarations.length) ↔
      ∃ input ∈ inputs, ∃ d ∈ input.declarations,
        (d.generate system options.generator).plan? = none := by
  rw [containers_generateBatch]
  constructor
  · rintro ⟨i, input, c, hinput, hc, hlt⟩
    rw [List.getElem?_map, hinput] at hc
    obtain rfl := Option.some.inj hc
    exact ⟨input, List.mem_of_getElem? hinput, (length_plans_lt_iff input.name).mp hlt⟩
  · rintro ⟨input, hinput, hdropped⟩
    obtain ⟨i, hi⟩ := List.mem_iff_getElem?.mp hinput
    refine ⟨i, input, _, hi, ?_, (length_plans_lt_iff input.name).mpr hdropped⟩
    rw [List.getElem?_map, hi]
    rfl

/-- **A batch fails exactly if a container has errors, and so exactly if a declaration was
    dropped**, whatever the limit and whether or not repeats are dropped.  The containers
    are those of the input, each generated on its own.  If the batch fails, an error of
    a container is reported; otherwise no error is, and no summary of errors. -/
theorem batch_fails_iff_dropped (system : TypeSystem) (options : BatchOptions)
    (inputs : List ContainerSource) :
    -- the containers
    ((generateBatch system options inputs).containers = inputs.map fun input =>
      generateContainer system options.generator input.name input.declarations) ∧
    -- failure
    ((generateBatch system options inputs).hasErrors = true ↔
      ∃ c ∈ (generateBatch system options inputs).containers, c.hasErrors = true) ∧
    ((generateBatch system options inputs).hasErrors = true ↔
      ∃ (i : Nat) (input : ContainerSource) (c : GeneratedContainer),
        inputs[i]? = some input ∧
        (generateBatch system options inputs).containers[i]? = some c ∧
        c.plans.length < input.declarations.length) ∧
    ((generateBatch system options inputs).hasErrors = true ↔
      ∃ input ∈ inputs, ∃ d ∈ input.declarations,
        (d.generate system options.generator).plan? = none) ∧
    -- the diagnostics
    ((generateBatch system options inputs).hasErrors = true →
      ∃ c ∈ (generateBatch system options inputs).containers, ∃ e ∈ c.diagnostics,
        e.isError = true ∧ e ∈ (generateBatch system options inputs).diagnostics) ∧
    ((generateBatch system options inputs).hasErrors = false →
      ∀ e ∈ (generateBatch system options inputs).diagnostics,
        e.isError = false ∧ e.code ≠ .errorLimit) := by
  have herrors : (generateBatch system options inputs).hasErrors = true ↔
      ∃ c ∈ (generateBatch system options inputs).containers, c.hasErrors = true :=
    hasErrors_batchQueue_iff
  have hdropped := herrors.trans exists_hasErrors_iff
  refine ⟨containers_generateBatch, herrors, hdropped.trans exists_fewer_plans_iff.symm, hdropped,
    exists_error_of_hasErrors, ?_⟩
  intro hnone e he
  have hwarning : e.isError = false := isError_of_mem_flushed hnone he
  refine ⟨hwarning, ?_⟩
  intro hcode
  rw [Diagnostic.isError, Diagnostic.severity, hcode] at hwarning
  exact absurd hwarning.symm Bool.false_ne_true

/-- Two containers: the first one has a method without a level, and the second one uses an
    event id twice. -/
def morningAndEvening : List ContainerSource :=
  [⟨"Morning", [helloMethod "Hello" 1 none, helloMethod "Later" 2 (some .debug)]⟩,
    ⟨"Evening", [helloMethod "Hello" 3 (some .debug), helloMethod "Again" 3 (some .debug)]⟩]

/-- The method without a level fails the batch; the repeated event id alone does not. -/
theorem batch_fails_iff_dropped_morning :
    let batch := generateBatch TypeFacts.conventional.system {} morningAndEvening
    let evening := generateBatch TypeFacts.conventional.system {} (morningAndEvening.drop 1)
    batch.containers.map (·.plans.length) = [1, 2] ∧
      batch.hasErrors = true ∧
      (∃ c ∈ batch.containers, c.hasErrors = true) ∧
      (∃ c ∈ batch.containers, ∃ e ∈ c.diagnostics, e.isError = true ∧ e ∈ batch.diagnostics) ∧
      evening.hasErrors = false ∧
      evening.diagnostics ≠ [] ∧
      ∀ e ∈ evening.diagnostics, e.isError = false ∧ e.code ≠ .errorLimit := by
  intro batch evening
  obtain ⟨hcontainers, herrors, -, hdropped, hreported, -⟩ :=
    batch_fails_iff_dropped TypeFacts.conventional.system {} morningAndEvening
  have hfails : batch.hasErrors = true :=
    hdropped.mpr ⟨_, List.mem_cons_self, _, List.mem_cons_self, by decide +kernel⟩
  have hsucceeds : evening.hasErrors = false := by decide +kernel
  have hwarned : evening.diagnostics ≠ [] := by decide +kernel
  refine ⟨?_, hfails, herrors.mp hfails, hreported hfails, hsucceeds, hwarned, ?_⟩
  · rw [hcontainers]
    decide +kernel
  · exact (batch_fails_iff_dropped _ _ _).2.2.2.2.2 hsucceeds

end StructuredLog
