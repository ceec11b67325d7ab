import StructuredLog.Diagnostic.Queue

/-! # Histories of a queue — what its requests keep

    A queue refuses an error at the limit and marks that it did, drops a repeat
    without a trace, and takes every other diagnostic (`push_induction`).  So
    however it was filled, what it counts as a repeat is what it holds, its errors
    are counted, and it is marked only while the limit is reached
    (`Reachable.consistent`).

    From this follows what a queue tells of the diagnostics that arrived: it has
    errors exactly if one of them was an error (`Consistent.hasErrors_extend_iff`). -/

namespace StructuredLog

/-- What can be asked of a queue. -/
inductive QueueRequest where
  | push (d : Diagnostic)
  | extend (ds : List Diagnostic)
  /-- Queue an error, for the proof that one was reported. -/
  | emitError (d : Diagnostic)
  | flush

/-- What a queue answers. -/
inductive QueueAnswer where
  | pushed (queued : Bool)
  | extended
  | errorReported
  | flushed (ds : List Diagnostic)

/-- What a queue shows of itself. -/
structure QueueView where
  queued : List Diagnostic
  errors : Nat
  limitReached : Bool
  hasErrors : Bool

namespace ReportQueue

variable {config : QueueConfig} {q : ReportQueue} {d e : Diagnostic}

/-- What the queue shows of itself. -/
def view (q : ReportQueue) : QueueView :=
  ⟨q.queued, q.errors, q.limitReached, q.hasErrors⟩

/-- The answer to a request, and the queue after it. -/
def perform (q : ReportQueue) : QueueRequest → QueueAnswer × ReportQueue
  | .push d => (.pushed (q.push d).1, (q.push d).2)
  | .extend ds => (.extended, q.extend ds)
  | .emitError d => (.errorReported, (q.push d).2)
  | .flush => (.flushed q.flush.1, q.flush.2)

/-- The queue after requests. -/
def after (q : ReportQueue) (requests : List QueueRequest) : ReportQueue :=
  requests.foldl (fun q request => (q.perform request).2) q

/-- All that can be seen of the queue during requests. -/
def observed (q : ReportQueue) : List QueueRequest → List (QueueAnswer × QueueView)
  | [] => []
  | request :: later =>
    ((q.perform request).1, (q.perform request).2.view) :: (q.perform request).2.observed later

/-- The queues that requests lead to from the empty one. -/
def Reachable (config : QueueConfig) (q : ReportQueue) : Prop :=
  ∃ history, q = (empty config).after history

/-! ## What a push does -/

/-- The queue with the mark that an error was dropped at the limit. -/
def marked (q : ReportQueue) : ReportQueue :=
  { q with overflowed := true }

/-- The queue with one more diagnostic. -/
def taking (q : ReportQueue) (d : Diagnostic) : ReportQueue :=
  { q with
    queued := q.queued ++ [d]
    seen := if q.config.deduplicate then d :: q.seen else q.seen
    errors := if d.isError then q.errors + 1 else q.errors }

theorem push_of_refused (herror : d.isError = true) (hlimit : q.limitReached = true) :
    q.push d = (false, q.marked) := by
  rw [push, if_pos (by rw [herror, hlimit]; rfl)]
  rfl

theorem push_of_seen (h : ¬(d.isError = true ∧ q.limitReached = true))
    (hdeduplicate : q.config.deduplicate = true) (hseen : d ∈ q.seen) :
    q.push d = (false, q) := by
  rw [push, if_neg (by rwa [Bool.and_eq_true]), if_pos]
  rw [hdeduplicate, Bool.true_and]
  exact List.contains_iff_mem.mpr hseen

theorem push_of_new (h : ¬(d.isError = true ∧ q.limitReached = true))
    (hnew : ¬(q.config.deduplicate = true ∧ d ∈ q.seen)) : q.push d = (true, q.taking d) := by
  rw [push, if_neg (by rwa [Bool.and_eq_true]), if_neg]
  · rfl
  · rwa [Bool.and_eq_true, List.contains_iff_mem]

/-- Which of the three a push does, and what comes of it. -/
theorem push_cases (q : ReportQueue) (d : Diagnostic) :
    (d.isError = true ∧ q.limitReached = true ∧ q.push d = (false, q.marked)) ∨
    (¬(d.isError = true ∧ q.limitReached = true) ∧ q.config.deduplicate = true ∧ d ∈ q.seen ∧
      q.push d = (false, q)) ∨
    (¬(d.isError = true ∧ q.limitReached = true) ∧ ¬(q.config.deduplicate = true ∧ d ∈ q.seen) ∧
      q.push d = (true, q.taking d)) := by
  by_cases hrefused : d.isError = true ∧ q.limitReached = true
  · exact .inl ⟨hrefused.1, hrefused.2, push_of_refused hrefused.1 hrefused.2⟩
  · by_cases hseen : q.config.deduplicate = true ∧ d ∈ q.seen
    · exact .inr (.inl ⟨hrefused, hseen.1, hseen.2, push_of_seen hrefused hseen.1 hseen.2⟩)
    · exact .inr (.inr ⟨hrefused, hseen, push_of_new hrefused hseen⟩)

/-- **A push refuses an error at the limit, drops a repeat, or takes the diagnostic.** -/
theorem push_induction {motive : Bool × ReportQueue → Prop}
    (refused : d.isError = true → q.limitReached = true → motive (false, q.marked))
    (seen : q.config.deduplicate = true → d ∈ q.seen → motive (false, q))
    (new : motive (true, q.taking d)) : motive (q.push d) := by
  rcases push_cases q d with ⟨herror, hlimit, hpush⟩ | ⟨-, hdeduplicate, hseen, hpush⟩ | ⟨-, -, hpush⟩
  · rw [hpush]
    exact refused herror hlimit
  · rw [hpush]
    exact seen hdeduplicate hseen
  · rw [hpush]
    exact new

/-! ## Consistency -/

/-- The books of a queue are right. -/
structure Consistent (q : ReportQueue) : Prop where
  mem_seen_iff : q.config.deduplicate = true → ∀ d, d ∈ q.seen ↔ d ∈ q.queued
  errors_eq : q.errors = q.queued.countP Diagnostic.isError
  limitReached_of_overflowed : q.overflowed = true → q.limitReached = true

theorem consistent_empty (config : QueueConfig) : (empty config).Consistent where
  mem_seen_iff := fun _ _ => Iff.rfl
  errors_eq := rfl
  limitReached_of_overflowed := fun h => nomatch h

theorem Consistent.marked (h : q.Consistent) (hlimit : q.limitReached = true) :
    q.marked.Consistent where
  mem_seen_iff := h.mem_seen_iff
  errors_eq := h.errors_eq
  limitReached_of_overflowed := fun _ => hlimit

theorem limitReached_iff :
    q.limitReached = true ↔ q.config.errorLimit ≠ 0 ∧ q.config.errorLimit ≤ q.errors := by
  rw [limitReached, Bool.and_eq_true, bne_iff_ne, decide_eq_true_eq]

/-- The books stay right when a diagnostic is taken. -/
theorem Consistent.taking (h : q.Consistent) (d : Diagnostic) : (q.taking d).Consistent where
  mem_seen_iff := by
    intro (hdeduplicate : q.config.deduplicate = true) e
    have hseen := h.mem_seen_iff hdeduplicate e
    show e ∈ (if q.config.deduplicate then d :: q.seen else q.seen) ↔ e ∈ q.queued ++ [d]
    rw [if_pos hdeduplicate, List.mem_cons, List.mem_append, List.mem_singleton, hseen, or_comm]
  errors_eq := by
    show (if d.isError then q.errors + 1 else q.errors) = (q.queued ++ [d]).countP _
    rw [List.countP_append, List.countP_singleton, ← h.errors_eq]
    split <;> rfl
  limitReached_of_overflowed := by
    intro hoverflowed
    obtain ⟨hlimit, hle⟩ := limitReached_iff.mp (h.limitReached_of_overflowed hoverflowed)
    refine limitReached_iff.mpr ⟨hlimit, Nat.le_trans hle ?_⟩
    show q.errors ≤ if d.isError then q.errors + 1 else q.errors
    split
    · exact Nat.le_succ _
    · exact Nat.le_refl _

theorem Consistent.push (h : q.Consistent) (d : Diagnostic) : (q.push d).2.Consistent := by
  refine push_induction (motive := fun result => result.2.Consistent) ?_ ?_ (h.taking d)
  · intro _ hlimit
    exact h.marked hlimit
  · intro _ _
    exact h

theorem Consistent.extend (h : q.Consistent) (ds : List Diagnostic) : (q.extend ds).Consistent := by
  induction ds generalizing q with
  | nil => exact h
  | cons d ds ih => exact ih (h.push d)

theorem Consistent.perform (h : q.Consistent) (request : QueueRequest) :
    (q.perform request).2.Consistent := by
  cases request with
  | push d => exact h.push d
  | extend ds => exact h.extend ds
  | emitError d => exact h.push d
  | flush => exact consistent_empty q.config

theorem Consistent.after (h : q.Consistent) (requests : List QueueRequest) :
    (q.after requests).Consistent := by
  induction requests generalizing q with
  | nil => exact h
  | cons request later ih => exact ih (h.perform request)

/-- **A queue keeps its books right**, whatever it is asked. -/
theorem Reachable.consistent (h : q.Reachable config) : q.Consistent := by
  obtain ⟨history, rfl⟩ := h
  exact (consistent_empty config).after history

/-! ## The configuration -/

theorem config_push (q : ReportQueue) (d : Diagnostic) : (q.push d).2.config = q.config :=
  push_induction (motive := fun result => result.2.config = q.config)
    (fun _ _ => rfl) (fun _ _ => rfl) rfl

theorem config_extend (q : ReportQueue) (ds : List Diagnostic) :
    (q.extend ds).config = q.config := by
  induction ds generalizing q with
  | nil => rfl
  | cons d ds ih => exact (ih (q.push d).2).trans (config_push q d)

theorem config_perform (q : ReportQueue) (request : QueueRequest) :
    (q.perform request).2.config = q.config := by
  cases request with
  | push d => exact config_push q d
  | extend ds => exact config_extend q ds
  | emitError d => exact config_push q d
  | flush => rfl

theorem config_after (q : ReportQueue) (requests : List QueueRequest) :
    (q.after requests).config = q.config := by
  induction requests generalizing q with
  | nil => rfl
  | cons request later ih => exact (ih (q.perform request).2).trans (config_perform q request)

theorem Reachable.config_eq (h : q.Reachable config) : q.config = config := by
  obtain ⟨history, rfl⟩ := h
  exact config_after (empty config) history

/-! ## Errors -/

/-- No limit is reached without an error. -/
theorem hasErrors_of_limitReached (h : q.limitReached = true) : q.hasErrors = true := by
  obtain ⟨hne, hle⟩ := limitReached_iff.mp h
  exact decide_eq_true (Nat.lt_of_lt_of_le (Nat.pos_of_ne_zero hne) hle)

theorem Consistent.hasErrors_iff (h : q.Consistent) :
    q.hasErrors = true ↔ ∃ e ∈ q.queued, e.isError = true := by
  rw [hasErrors, decide_eq_true_eq, h.errors_eq, List.countP_pos_iff]

theorem mem_queued_push (h : e ∈ (q.push d).2.queued) : e ∈ q.queued ∨ e = d := by
  revert h
  refine push_induction (motive := fun result => e ∈ result.2.queued → _) ?_ ?_ ?_
  · intro _ _ h
    exact .inl h
  · intro _ _ h
    exact .inl h
  · intro h
    exact (List.mem_append.mp h).imp_right List.mem_singleton.mp

theorem mem_queued_push_of_mem (h : e ∈ q.queued) (d : Diagnostic) : e ∈ (q.push d).2.queued := by
  refine push_induction (motive := fun result => e ∈ result.2.queued) ?_ ?_ ?_
  · intro _ _
    exact h
  · intro _ _
    exact h
  · exact List.mem_append_left _ h

theorem mem_queued_extend {ds : List Diagnostic} (h : e ∈ (q.extend ds).queued) :
    e ∈ q.queued ∨ e ∈ ds := by
  induction ds generalizing q with
  | nil => exact .inl h
  | cons d ds ih =>
      rcases ih h with hpush | hds
      · rcases mem_queued_push hpush with hq | rfl
        · exact .inl hq
        · exact .inr List.mem_cons_self
      · exact .inr (List.mem_cons_of_mem d hds)

/-- An error that is pushed leaves the queue with an error, also if it is not queued
    itself. -/
theorem Consistent.hasErrors_push (h : q.Consistent) (herror : d.isError = true) :
    (q.push d).2.hasErrors = true := by
  refine push_induction (motive := fun result => result.2.hasErrors = true) ?_ ?_ ?_
  · intro _ hlimit
    exact hasErrors_of_limitReached hlimit
  · intro hdeduplicate hseen
    exact h.hasErrors_iff.mpr ⟨d, (h.mem_seen_iff hdeduplicate d).mp hseen, herror⟩
  · exact (h.taking d).hasErrors_iff.mpr
      ⟨d, List.mem_append_right _ (List.mem_singleton.mpr rfl), herror⟩

theorem Consistent.hasErrors_push_of_hasErrors (h : q.Consistent) (hq : q.hasErrors = true)
    (d : Diagnostic) : (q.push d).2.hasErrors = true := by
  obtain ⟨e, he, herror⟩ := h.hasErrors_iff.mp hq
  exact (h.push d).hasErrors_iff.mpr ⟨e, mem_queued_push_of_mem he d, herror⟩

/-- **The queue has errors exactly if an error arrived**, whatever became of it. -/
theorem Consistent.hasErrors_extend_iff (h : q.Consistent) (ds : List Diagnostic) :
    (q.extend ds).hasErrors = true ↔ q.hasErrors = true ∨ ∃ e ∈ ds, e.isError = true := by
  constructor
  · intro herrors
    obtain ⟨e, he, herror⟩ := (h.extend ds).hasErrors_iff.mp herrors
    rcases mem_queued_extend he with hq | hds
    · exact .inl (h.hasErrors_iff.mpr ⟨e, hq, herror⟩)
    · exact .inr ⟨e, hds, herror⟩
  · intro herrors
    induction ds generalizing q with
    | nil => exact herrors.resolve_right fun ⟨e, he, _⟩ => List.not_mem_nil he
    | cons d ds ih =>
        refine ih (h.push d) ?_
        rcases herrors with hq | ⟨e, he, herror⟩
        · exact .inl (h.hasErrors_push_of_hasErrors hq d)
        · rcases List.mem_cons.mp he with rfl | hds
          · exact .inl (h.hasErrors_push herror)
          · exact .inr ⟨e, hds, herror⟩

/-! ## Flushing -/

theorem mem_flushed (h : e ∈ q.queued) : e ∈ q.flushed := by
  have hsorted : e ∈ q.queued.mergeSort inOrder := List.mem_mergeSort.mpr h
  rw [flushed]
  split
  · exact List.mem_append_left _ hsorted
  · exact hsorted

/-- A flush hands back what is queued, and nothing else but the summary. -/
theorem mem_queued_of_mem_flushed (hoverflowed : q.overflowed = false) (h : e ∈ q.flushed) :
    e ∈ q.queued := by
  rw [flushed, hoverflowed] at h
  exact List.mem_mergeSort.mp h

end ReportQueue

end StructuredLog
