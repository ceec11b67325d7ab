import Mathlib.Data.List.Nodup
import StructuredLog.Proofs.Diagnostic.Repeats

/-! # Honesty — a proof of an error stands for a queued error

    Whoever reports an error gets a proof of it at once, also if the queue drops
    the report.  The proof is honest all the same: a report is dropped at the
    limit, where other errors are queued, or as a repeat, and then its equal is
    (`Consistent.hasErrors_push`).

    So the proof rests on the books of the queue being right, and on its filters:
    it never holds more errors than its limit, nor two equal diagnostics when it
    drops repeats (`Filtered`).  A push keeps this, since it takes a diagnostic
    only when neither filter applies (`Filtered.push`). -/

namespace StructuredLog

namespace ReportQueue

variable {config : QueueConfig} {q : ReportQueue} {d : Diagnostic}

/-- What the queue holds has passed its filters. -/
structure Filtered (q : ReportQueue) : Prop where
  errors_le : q.config.errorLimit ≠ 0 → q.errors ≤ q.config.errorLimit
  nodup : q.config.deduplicate = true → q.queued.Nodup

theorem filtered_empty (config : QueueConfig) : (empty config).Filtered where
  errors_le := fun _ => Nat.zero_le _
  nodup := fun _ => .nil

/-- A diagnostic that neither filter applies to keeps the queue filtered. -/
theorem Filtered.taking (h : q.Filtered) (hq : q.Consistent)
    (htaken : ¬(d.isError = true ∧ q.limitReached = true))
    (hnew : ¬(q.config.deduplicate = true ∧ d ∈ q.seen)) : (q.taking d).Filtered where
  errors_le := by
    intro (hlimit : q.config.errorLimit ≠ 0)
    show (if d.isError then q.errors + 1 else q.errors) ≤ q.config.errorLimit
    by_cases herror : d.isError = true
    · rw [if_pos herror]
      have hbelow : ¬q.config.errorLimit ≤ q.errors := fun hle =>
        htaken ⟨herror, limitReached_iff.mpr ⟨hlimit, hle⟩⟩
      exact Nat.not_le.mp hbelow
    · rw [if_neg herror]
      exact h.errors_le hlimit
  nodup := by
    intro (hdeduplicate : q.config.deduplicate = true)
    have hd : d ∉ q.queued := fun hd =>
      hnew ⟨hdeduplicate, (hq.mem_seen_iff hdeduplicate d).mpr hd⟩
    exact List.Nodup.append (h.nodup hdeduplicate) (List.nodup_singleton d)
      (List.disjoint_singleton.mpr hd)

/-- **A push keeps the queue filtered.** -/
theorem Filtered.push (h : q.Filtered) (hq : q.Consistent) (d : Diagnostic) :
    (q.push d).2.Filtered := by
  rcases push_cases q d with ⟨-, -, hpush⟩ | ⟨-, -, -, hpush⟩ | ⟨htaken, hnew, hpush⟩
  · rw [hpush]
    exact ⟨h.errors_le, h.nodup⟩
  · rw [hpush]
    exact h
  · rw [hpush]
    exact h.taking hq htaken hnew

theorem Filtered.extend (h : q.Filtered) (hq : q.Consistent) (ds : List Diagnostic) :
    (q.extend ds).Filtered := by
  induction ds generalizing q with
  | nil => exact h
  | cons d ds ih => exact ih (h.push hq d) (hq.push d)

theorem Filtered.perform (h : q.Filtered) (hq : q.Consistent) (request : QueueRequest) :
    (q.perform request).2.Filtered := by
  cases request with
  | push d => exact h.push hq d
  | extend ds => exact h.extend hq ds
  | emitError d => exact h.push hq d
  | flush => exact filtered_empty q.config

theorem Filtered.after (h : q.Filtered) (hq : q.Consistent) (requests : List QueueRequest) :
    (q.after requests).Filtered := by
  induction requests generalizing q with
  | nil => exact h
  | cons request later ih => exact ih (h.perform hq request) (hq.perform request)

/-- **A queue keeps to its filters**, whatever it is asked. -/
theorem Reachable.filtered (h : q.Reachable config) : q.Filtered := by
  obtain ⟨history, rfl⟩ := h
  exact (filtered_empty config).after (consistent_empty config) history

/-- **A proof of an error is honest.**  Whatever the queue was asked before, it counts
    the errors that it holds, and has errors exactly if it holds one; it holds no
    more of them than its limit, and no two equal diagnostics when it drops
    repeats.  And once the proof of an error is handed out, an error is queued. -/
theorem error_proof_is_honest (h : q.Reachable config) :
    q.view.errors = (q.view.queued.filter Diagnostic.isError).length ∧
    (config.errorLimit ≠ 0 → q.view.errors ≤ config.errorLimit) ∧
    (config.deduplicate = true → q.view.queued.Nodup) ∧
    (q.view.hasErrors = true ↔ ∃ e ∈ q.view.queued, e.isError = true) ∧
    ∀ d : Diagnostic, d.isError = true →
      (q.perform (.emitError d)).2.view.hasErrors = true ∧
        ∃ e ∈ (q.perform (.emitError d)).2.view.queued, e.isError = true := by
  have hconsistent := h.consistent
  have hfiltered := h.filtered
  refine ⟨?_, ?_, ?_, hconsistent.hasErrors_iff, ?_⟩
  · exact hconsistent.errors_eq.trans (List.countP_eq_length_filter ..)
  · exact h.config_eq ▸ hfiltered.errors_le
  · exact h.config_eq ▸ hfiltered.nodup
  · intro d herror
    have hreported : (q.push d).2.hasErrors = true := hconsistent.hasErrors_push herror
    exact ⟨hreported, (hconsistent.push d).hasErrors_iff.mp hreported⟩

/-- The proof of a repeated error is honest, also at the limit, where no error is
    taken. -/
theorem error_proof_is_honest_at_limit :
    (queueWithError 1).Reachable ⟨1, true⟩ ∧
      (queueWithError 1).view.errors
        = ((queueWithError 1).view.queued.filter Diagnostic.isError).length ∧
      (queueWithError 1).limitReached = true ∧
      ((queueWithError 1).push valueReturned).1 = false ∧
      ((queueWithError 1).perform (.emitError valueReturned)).2.view.hasErrors = true := by
  have hreachable : (queueWithError 1).Reachable ⟨1, true⟩ := ⟨_, rfl⟩
  obtain ⟨hcount, -, -, -, hproof⟩ := error_proof_is_honest hreachable
  exact ⟨hreachable, hcount, rfl, rfl, (hproof valueReturned rfl).1⟩

end ReportQueue

end StructuredLog
