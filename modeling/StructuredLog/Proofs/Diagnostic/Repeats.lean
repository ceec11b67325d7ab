import StructuredLog.Proofs.Diagnostic.History

/-! # Repeats — pushing a queued diagnostic again

    A repeat is dropped, and mostly that is all.  But an error is held against
    the limit before it is looked for among the queued ones: at the limit a
    repeated error marks the queue like any other.  The mark shows nowhere before
    the next flush (`observed_marked`), which then adds the summary, unless an
    error was dropped at the limit anyhow (`flush_marked`).  So pushing a queued
    diagnostic again goes unseen exactly when it sets no new mark
    (`repeat_goes_unseen`). -/

namespace StructuredLog

namespace ReportQueue

variable {config : QueueConfig} {q : ReportQueue} {d : Diagnostic}

/-! ## The mark -/

theorem push_marked (q : ReportQueue) (d : Diagnostic) :
    q.marked.push d = ((q.push d).1, (q.push d).2.marked) := by
  show (if d.isError && q.limitReached then _ else _) = _
  rw [push]
  split
  · rfl
  · show (if q.config.deduplicate && q.seen.contains d then _ else _) = _
    split <;> rfl

theorem extend_marked (q : ReportQueue) (ds : List Diagnostic) :
    q.marked.extend ds = (q.extend ds).marked := by
  induction ds generalizing q with
  | nil => rfl
  | cons d ds ih =>
      show (q.marked.push d).2.extend ds = ((q.push d).2.extend ds).marked
      rw [push_marked, ih]

/-- The mark changes no answer but that of a flush, and lasts until then. -/
theorem perform_marked {request : QueueRequest} (h : request ≠ .flush) :
    q.marked.perform request = ((q.perform request).1, (q.perform request).2.marked) := by
  cases request with
  | push d =>
      show (QueueAnswer.pushed (q.marked.push d).1, (q.marked.push d).2) = _
      rw [push_marked]
      rfl
  | extend ds =>
      show (QueueAnswer.extended, q.marked.extend ds) = _
      rw [extend_marked]
      rfl
  | emitError d =>
      show (QueueAnswer.errorReported, (q.marked.push d).2) = _
      rw [push_marked]
      rfl
  | flush => exact absurd rfl h

/-- Until the next flush a marked queue answers like the same queue without the mark, and keeps
    it. -/
theorem observed_marked {requests : List QueueRequest} (h : .flush ∉ requests) :
    q.marked.observed requests = q.observed requests ∧
      q.marked.after requests = (q.after requests).marked := by
  induction requests generalizing q with
  | nil => exact ⟨rfl, rfl⟩
  | cons request later ih =>
      obtain ⟨hrequest, hlater⟩ := not_or.mp (mt List.mem_cons.mpr h)
      have hperform : q.marked.perform request = _ := perform_marked (Ne.symm hrequest)
      obtain ⟨hobserved, hafter⟩ := ih (q := (q.perform request).2) hlater
      constructor
      · rw [observed, observed, hperform]
        show (_, (q.perform request).2.marked.view) :: _ = _
        rw [hobserved]
        rfl
      · show (q.marked.perform request).2.after later = _
        rw [hperform]
        exact hafter

/-- A flush shows the mark, once, by the summary, and forgets it. -/
theorem flush_marked (q : ReportQueue) :
    q.marked.flush =
      (q.flushed ++
        (if q.overflowed then []
          else [.errorLimitSummary q.config.errorLimit ((lastSpan? q.flushed).getD .nowhere)]),
        q.flush.2) := by
  show (q.queued.mergeSort inOrder ++ _, _) = _
  rw [flush, flushed]
  cases q.overflowed with
  | true => rw [if_pos rfl, if_pos rfl, List.append_nil]; rfl
  | false => rfl

/-! ## Repeats -/

/-- Pushing a queued diagnostic again sets the mark at most. -/
theorem push_of_mem_queued (h : q.Consistent) (hdeduplicate : q.config.deduplicate = true)
    (hd : d ∈ q.queued) :
    q.push d = (false, if d.isError = true ∧ q.limitReached = true then q.marked else q) := by
  by_cases hrefused : d.isError = true ∧ q.limitReached = true
  · rw [if_pos hrefused, push_of_refused hrefused.1 hrefused.2]
  · rw [if_neg hrefused, push_of_seen hrefused hdeduplicate ((h.mem_seen_iff hdeduplicate d).mpr hd)]

theorem marked_of_overflowed (h : q.overflowed = true) : q.marked = q := by
  rw [marked, ← h]

/-- A mark that was not there before shows in the next flush. -/
theorem observed_marked_ne (h : q.overflowed = false) :
    q.marked.observed [.flush] ≠ q.observed [.flush] := by
  intro heq
  have hflushed : q.marked.flush.1 = q.flush.1 :=
    QueueAnswer.flushed.inj (Prod.mk.inj (List.cons.inj heq).1).1
  rw [flush_marked, h] at hflushed
  exact List.cons_ne_nil _ _ (List.append_right_eq_self.mp hflushed)

/-- **Pushing a queued diagnostic again goes unseen**, except that an error which is the
    first to arrive at the limit adds the summary to the next flush. -/
theorem repeat_goes_unseen (h : q.Reachable config) (hdeduplicate : config.deduplicate = true)
    (hd : d ∈ q.queued) :
    (q.push d).1 = false ∧ (q.push d).2.view = q.view ∧
    ((∀ later, (q.push d).2.observed later = q.observed later) ↔
      (d.isError = true → q.limitReached = true → q.overflowed = true)) ∧
    ∀ later, .flush ∉ later →
      (q.push d).2.observed later = q.observed later ∧
      ((q.push d).2.after later).flush =
        ((q.after later).flushed ++
          (if d.isError = true ∧ q.limitReached = true ∧ (q.after later).overflowed = false then
            [.errorLimitSummary config.errorLimit
              ((lastSpan? (q.after later).flushed).getD .nowhere)]
          else []),
          empty config) := by
  have hconfig := h.config_eq
  have hpush := push_of_mem_queued h.consistent (hconfig ▸ hdeduplicate) hd
  by_cases hrefused : d.isError = true ∧ q.limitReached = true
  · rw [if_pos hrefused] at hpush
    rw [hpush]
    refine ⟨rfl, rfl, ?_, ?_⟩
    · constructor
      · intro hunseen _ _
        cases hoverflowed : q.overflowed with
        | true => rfl
        | false => exact absurd (hunseen [.flush]) (observed_marked_ne hoverflowed)
      · intro hoverflowed later
        rw [marked_of_overflowed (hoverflowed hrefused.1 hrefused.2)]
    · intro later hlater
      obtain ⟨hobserved, hafter⟩ := observed_marked (q := q) hlater
      refine ⟨hobserved, ?_⟩
      show (q.marked.after later).flush = _
      rw [hafter, flush_marked, flush, config_after, hconfig]
      cases (q.after later).overflowed with
      | true => rw [if_pos rfl, if_neg fun hnew => nomatch hnew.2.2]
      | false => rw [if_neg Bool.false_ne_true, if_pos ⟨hrefused.1, hrefused.2, rfl⟩]
  · rw [if_neg hrefused] at hpush
    rw [hpush]
    refine ⟨rfl, rfl, iff_of_true (fun _ => rfl) fun he hl => absurd ⟨he, hl⟩ hrefused, ?_⟩
    intro later _
    refine ⟨rfl, ?_⟩
    show (q.after later).flush = _
    rw [flush, config_after, hconfig, if_neg fun hnew => hrefused ⟨hnew.1, hnew.2.1⟩,
      List.append_nil]

/-- The report of a method that returns a value. -/
def valueReturned : Diagnostic :=
  .labeled .notVoid "a" ⟨1, 2⟩ "here" []

/-- A queue that has taken the error. -/
def queueWithError (limit : Nat) : ReportQueue :=
  (empty ⟨limit, true⟩).after [.push valueReturned]

/-- Below the limit the repeated error goes unseen, at the limit it does not. -/
theorem repeat_goes_unseen_below_limit :
    (valueReturned ∈ (queueWithError 2).queued ∧
      ∀ later, ((queueWithError 2).push valueReturned).2.observed later
        = (queueWithError 2).observed later) ∧
    (valueReturned ∈ (queueWithError 1).queued ∧
      ¬∀ later, ((queueWithError 1).push valueReturned).2.observed later
        = (queueWithError 1).observed later) := by
  have htwo : valueReturned ∈ (queueWithError 2).queued := List.mem_singleton.mpr rfl
  have hone : valueReturned ∈ (queueWithError 1).queued := List.mem_singleton.mpr rfl
  refine ⟨⟨htwo, ?_⟩, hone, ?_⟩
  · exact (repeat_goes_unseen ⟨_, rfl⟩ rfl htwo).2.2.1.mpr fun _ hlimit => nomatch hlimit
  · intro hunseen
    have hmark := (repeat_goes_unseen ⟨_, rfl⟩ rfl hone).2.2.1.mp hunseen rfl rfl
    exact nomatch hmark

/-- At the limit a repeated error counts as one too many, though no other was dropped. -/
theorem repeat_at_limit_is_summarized :
    valueReturned ∈ (queueWithError 1).queued ∧
      (queueWithError 1).flushed = [valueReturned] ∧
      ((queueWithError 1).push valueReturned).2.flushed
        = [valueReturned, .errorLimitSummary 1 ⟨1, 2⟩] := by
  have hflushed : (queueWithError 1).flushed = [valueReturned] :=
    List.mergeSort_singleton valueReturned
  refine ⟨List.mem_singleton.mpr rfl, hflushed, ?_⟩
  rw [push_of_refused rfl rfl]
  show (queueWithError 1).marked.flush.1 = _
  rw [flush_marked, hflushed]
  rfl

end ReportQueue

end StructuredLog
