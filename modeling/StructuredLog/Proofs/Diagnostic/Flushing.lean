import Mathlib.Data.List.Induction
import StructuredLog.Proofs.Diagnostic.Honesty
import StructuredLog.Proofs.Diagnostic.Sorting

/-! # Flushing — what a queue hands back of what arrived

    A queue is what the diagnostics make of it that arrived since it was new or
    was last flushed (`after_eq_extend_arrivals`).  Of these it accepts the ones
    whose push it answers so, and it holds nothing else (`queued_extend`).

    The answers come one by one, but what is accepted can be said of all that
    arrived at once: every warning and the first errors up to the limit, each
    once if repeats are dropped (`accepts_accepted`).  The proof goes by the last
    arrival.  An error at the limit changes nothing, because the accepted errors
    fill the limit already; below the limit nothing has been refused, so that
    whatever arrived before is among the accepted ones (`mem_accepted`), and a
    repeat of it is found.

    A flush sorts the accepted diagnostics and adds the summary exactly if an
    error arrived at the limit (`flush_keeps_accepted`).  The summary is an error
    about the limit, at the last place of the others (`TellsLimit`). -/

namespace StructuredLog

namespace ReportQueue

variable {config : QueueConfig} {q : ReportQueue} {d e : Diagnostic} {ds : List Diagnostic}

/-! ## Arrivals -/

/-- What has arrived after one more request; a flush starts afresh. -/
def arrive (arrived : List Diagnostic) : QueueRequest → List Diagnostic
  | .push d => arrived ++ [d]
  | .extend ds => arrived ++ ds
  | .emitError d => arrived ++ [d]
  | .flush => []

/-- The diagnostics that have arrived since the queue was new or was last flushed. -/
def arrivals (requests : List QueueRequest) : List Diagnostic :=
  requests.foldl arrive []

theorem extend_append (q : ReportQueue) (ds ds' : List Diagnostic) :
    q.extend (ds ++ ds') = (q.extend ds).extend ds' :=
  List.foldl_append

theorem perform_extend (config : QueueConfig) (ds : List Diagnostic) (request : QueueRequest) :
    (((empty config).extend ds).perform request).2 = (empty config).extend (arrive ds request) := by
  cases request with
  | push d => exact ((empty config).extend_append ds [d]).symm
  | extend more => exact ((empty config).extend_append ds more).symm
  | emitError d => exact ((empty config).extend_append ds [d]).symm
  | flush => exact congrArg empty (config_extend (empty config) ds)

theorem after_extend (config : QueueConfig) (ds : List Diagnostic) (requests : List QueueRequest) :
    ((empty config).extend ds).after requests
      = (empty config).extend (requests.foldl arrive ds) := by
  induction requests generalizing ds with
  | nil => rfl
  | cons request later ih =>
      show (((empty config).extend ds).perform request).2.after later = _
      rw [perform_extend, ih]
      rfl

/-- **A queue is what has arrived since the last flush.** -/
theorem after_eq_extend_arrivals (config : QueueConfig) (requests : List QueueRequest) :
    (empty config).after requests = (empty config).extend (arrivals requests) :=
  after_extend config [] requests

/-! ## Acceptance -/

/-- Those of the diagnostics that the queue takes when they are pushed in turn. -/
def accepted (q : ReportQueue) : List Diagnostic → List Diagnostic
  | [] => []
  | d :: ds =>
    if (q.push d).1 then d :: (q.push d).2.accepted ds else (q.push d).2.accepted ds

theorem sublist_accepted (q : ReportQueue) (ds : List Diagnostic) : (q.accepted ds).Sublist ds := by
  induction ds generalizing q with
  | nil => exact .slnil
  | cons d ds ih =>
      rw [accepted]
      split
      · exact (ih _).cons_cons d
      · exact (ih _).cons d

theorem queued_push (q : ReportQueue) (d : Diagnostic) :
    (q.push d).2.queued = if (q.push d).1 then q.queued ++ [d] else q.queued :=
  push_induction (motive := fun result =>
    result.2.queued = if result.1 then q.queued ++ [d] else q.queued)
    (fun _ _ => rfl) (fun _ _ => rfl) rfl

/-- **A queue holds what it accepted.** -/
theorem queued_extend (q : ReportQueue) (ds : List Diagnostic) :
    (q.extend ds).queued = q.queued ++ q.accepted ds := by
  induction ds generalizing q with
  | nil => exact (List.append_nil q.queued).symm
  | cons d ds ih =>
      have hpush := q.queued_push d
      show ((q.push d).2.extend ds).queued = _
      rw [ih, accepted]
      by_cases h : (q.push d).1 = true
      · rw [if_pos h] at hpush ⊢
        rw [hpush, List.append_assoc]
        rfl
      · rw [if_neg h] at hpush ⊢
        rw [hpush]

theorem queued_extend_empty (config : QueueConfig) (ds : List Diagnostic) :
    ((empty config).extend ds).queued = (empty config).accepted ds :=
  queued_extend (empty config) ds

/-- What is accepted up to one more arrival. -/
theorem accepted_concat (q : ReportQueue) (ds : List Diagnostic) (d : Diagnostic) :
    q.accepted (ds ++ [d])
      = if ((q.extend ds).push d).1 then q.accepted ds ++ [d] else q.accepted ds := by
  induction ds generalizing q with
  | nil => rfl
  | cons e ds ih =>
      show q.accepted (e :: (ds ++ [d])) = if (((q.push e).2.extend ds).push d).1 then _ else _
      rw [accepted, accepted, ih]
      split <;> split <;> rfl

/-- The queue has as many of these errors as its limit allows. -/
def FillsLimit (config : QueueConfig) (ds : List Diagnostic) : Prop :=
  config.errorLimit ≠ 0 ∧ config.errorLimit ≤ (ds.filter Diagnostic.isError).length

theorem limitReached_extend_iff (config : QueueConfig) (ds : List Diagnostic) :
    ((empty config).extend ds).limitReached = true
      ↔ FillsLimit config ((empty config).accepted ds) := by
  have hconsistent := (consistent_empty config).extend ds
  rw [limitReached_iff, config_extend, hconsistent.errors_eq, queued_extend_empty,
    List.countP_eq_length_filter]
  rfl

/-- **Only errors at the limit and repeats are rejected.** -/
theorem push_extend_eq_false_iff (config : QueueConfig) (ds : List Diagnostic) (d : Diagnostic) :
    (((empty config).extend ds).push d).1 = false ↔
      d.isError = true ∧ FillsLimit config ((empty config).accepted ds) ∨
      config.deduplicate = true ∧ d ∈ (empty config).accepted ds := by
  have hseen := ((consistent_empty config).extend ds).mem_seen_iff
  rw [← limitReached_extend_iff, ← queued_extend_empty]
  rw [config_extend] at hseen
  rcases push_cases ((empty config).extend ds) d with
    ⟨herror, hlimit, hpush⟩ | ⟨-, hdeduplicate, hd, hpush⟩ | ⟨htaken, hnew, hpush⟩
  · rw [hpush]
    exact iff_of_true rfl (.inl ⟨herror, hlimit⟩)
  · rw [config_extend] at hdeduplicate
    rw [hpush]
    exact iff_of_true rfl (.inr ⟨hdeduplicate, (hseen hdeduplicate d).mp hd⟩)
  · rw [config_extend] at hnew
    rw [hpush]
    refine iff_of_false Bool.true_eq_false.mp ?_
    rintro (hrefused | ⟨hdeduplicate, hd⟩)
    · exact htaken hrefused
    · exact hnew ⟨hdeduplicate, (hseen hdeduplicate d).mpr hd⟩

/-! ## What is accepted of all that arrived -/

/-- The diagnostics, each once if repeats are dropped. -/
def distinct (config : QueueConfig) (ds : List Diagnostic) : List Diagnostic :=
  if config.deduplicate then ds.eraseDups else ds

/-- The first errors, as many as the limit allows. -/
def upToLimit (config : QueueConfig) (errors : List Diagnostic) : List Diagnostic :=
  if config.errorLimit = 0 then errors else errors.take config.errorLimit

theorem mem_distinct : d ∈ distinct config ds ↔ d ∈ ds := by
  rw [distinct]
  split
  · exact List.mem_eraseDups
  · exact Iff.rfl

theorem distinct_concat_of_repeat (hdeduplicate : config.deduplicate = true) (hd : d ∈ ds) :
    distinct config (ds ++ [d]) = distinct config ds := by
  have hnone : [d].removeAll ds = [] :=
    List.filter_cons_of_neg (by rw [List.elem_eq_true_of_mem hd]; exact Bool.false_ne_true)
  rw [distinct, distinct, if_pos hdeduplicate, if_pos hdeduplicate, List.eraseDups_append, hnone,
    List.eraseDups_nil, List.append_nil]

theorem distinct_concat_of_new (h : ¬(config.deduplicate = true ∧ d ∈ ds)) :
    distinct config (ds ++ [d]) = distinct config ds ++ [d] := by
  rw [distinct, distinct]
  by_cases hdeduplicate : config.deduplicate = true
  · have hd : List.elem d ds = false :=
      Bool.eq_false_iff.mpr fun hd => h ⟨hdeduplicate, List.mem_of_elem_eq_true hd⟩
    have hself : [d].removeAll ds = [d] := List.filter_cons_of_pos (by rw [hd]; rfl)
    rw [if_pos hdeduplicate, if_pos hdeduplicate, List.eraseDups_append, hself]
    rfl
  · rw [if_neg hdeduplicate, if_neg hdeduplicate]

theorem upToLimit_append_of_filled {errors : List Diagnostic} (hlimit : config.errorLimit ≠ 0)
    (hle : config.errorLimit ≤ (upToLimit config errors).length) (more : List Diagnostic) :
    upToLimit config (errors ++ more) = upToLimit config errors := by
  rw [upToLimit, if_neg hlimit] at hle
  rw [upToLimit, upToLimit, if_neg hlimit, if_neg hlimit]
  exact List.take_append_of_le_length (Nat.le_trans hle (List.length_take_le' ..))

/-- Below the limit nothing is cut off, nor is the next error. -/
theorem upToLimit_of_room {errors : List Diagnostic}
    (h : config.errorLimit ≠ 0 → (upToLimit config errors).length < config.errorLimit) :
    upToLimit config errors = errors ∧
      ∀ e, upToLimit config (errors ++ [e]) = errors ++ [e] := by
  by_cases hlimit : config.errorLimit = 0
  · exact ⟨if_pos hlimit, fun e => if_pos hlimit⟩
  · have hlt := h hlimit
    rw [upToLimit, if_neg hlimit, List.length_take] at hlt
    have hlt : errors.length < config.errorLimit := by omega
    refine ⟨?_, fun e => ?_⟩
    · rw [upToLimit, if_neg hlimit, List.take_of_length_le (Nat.le_of_lt hlt)]
    · rw [upToLimit, if_neg hlimit, List.take_of_length_le]
      rw [List.length_append, List.length_singleton]
      exact hlt

/-- What is accepted of the diagnostics that arrived: every warning, and the first errors
    up to the limit. -/
structure Accepts (config : QueueConfig) (arrived accepted : List Diagnostic) : Prop where
  warnings_eq : accepted.filter (!·.isError) = (distinct config arrived).filter (!·.isError)
  errors_eq : accepted.filter (·.isError)
    = upToLimit config ((distinct config arrived).filter (·.isError))

namespace Accepts

variable {arrived accepted : List Diagnostic}

/-- A repeat of what arrived before makes no difference. -/
theorem repeated (h : Accepts config arrived accepted) (hdeduplicate : config.deduplicate = true)
    (hd : d ∈ arrived) : Accepts config (arrived ++ [d]) accepted := by
  have hsame := distinct_concat_of_repeat hdeduplicate hd
  exact ⟨hsame ▸ h.warnings_eq, hsame ▸ h.errors_eq⟩

/-- An error at the limit is left out. -/
theorem refused (h : Accepts config arrived accepted) (herror : d.isError = true)
    (hfilled : FillsLimit config accepted) : Accepts config (arrived ++ [d]) accepted := by
  by_cases hrepeat : config.deduplicate = true ∧ d ∈ arrived
  · exact h.repeated hrepeat.1 hrepeat.2
  · obtain ⟨hlimit, hle⟩ := hfilled
    rw [h.errors_eq] at hle
    constructor
    · rw [distinct_concat_of_new hrepeat, List.filter_append, h.warnings_eq,
        List.filter_cons_of_neg (by rw [herror]; exact Bool.false_ne_true), List.filter_nil,
        List.append_nil]
    · rw [distinct_concat_of_new hrepeat, List.filter_append, h.errors_eq,
        upToLimit_append_of_filled hlimit hle]

/-- Below the limit no error has been left out. -/
theorem errors_of_room (h : Accepts config arrived accepted)
    (hroom : ¬FillsLimit config accepted) :
    accepted.filter (·.isError) = (distinct config arrived).filter (·.isError) ∧
      ∀ e, upToLimit config ((distinct config arrived).filter (·.isError) ++ [e])
        = (distinct config arrived).filter (·.isError) ++ [e] := by
  have hlt : config.errorLimit ≠ 0 →
      (upToLimit config ((distinct config arrived).filter (·.isError))).length
        < config.errorLimit := by
    intro hlimit
    rw [← h.errors_eq]
    exact Nat.not_le.mp fun hle => hroom ⟨hlimit, hle⟩
  obtain ⟨hself, hnext⟩ := upToLimit_of_room hlt
  exact ⟨h.errors_eq.trans hself, hnext⟩

/-- What is not refused now, and arrived before, was accepted then. -/
theorem mem_accepted (h : Accepts config arrived accepted)
    (htaken : ¬(d.isError = true ∧ FillsLimit config accepted)) (hd : d ∈ arrived) :
    d ∈ accepted := by
  have hdistinct : d ∈ distinct config arrived := mem_distinct.mpr hd
  cases herror : d.isError with
  | true =>
      have herrors := (h.errors_of_room fun hfilled => htaken ⟨herror, hfilled⟩).1
      have hmem : d ∈ (distinct config arrived).filter (·.isError) :=
        List.mem_filter.mpr ⟨hdistinct, herror⟩
      exact (List.mem_filter.mp (herrors ▸ hmem)).1
  | false =>
      have hmem : d ∈ (distinct config arrived).filter (!·.isError) :=
        List.mem_filter.mpr ⟨hdistinct, by rw [herror]; rfl⟩
      exact (List.mem_filter.mp (h.warnings_eq ▸ hmem)).1

/-- What neither filter applies to is accepted. -/
theorem taken (h : Accepts config arrived accepted)
    (htaken : ¬(d.isError = true ∧ FillsLimit config accepted))
    (hnew : ¬(config.deduplicate = true ∧ d ∈ accepted)) :
    Accepts config (arrived ++ [d]) (accepted ++ [d]) := by
  have hdistinct : distinct config (arrived ++ [d]) = distinct config arrived ++ [d] :=
    distinct_concat_of_new fun hrepeat => hnew ⟨hrepeat.1, h.mem_accepted htaken hrepeat.2⟩
  cases herror : d.isError with
  | true =>
      obtain ⟨herrors, hnext⟩ := h.errors_of_room fun hfilled => htaken ⟨herror, hfilled⟩
      constructor
      · rw [hdistinct, List.filter_append, List.filter_append, h.warnings_eq]
      · rw [hdistinct, List.filter_append, List.filter_append, herrors,
          List.filter_cons_of_pos herror, List.filter_nil, hnext]
  | false =>
      have hnone : [d].filter (·.isError) = [] :=
        List.filter_cons_of_neg (by rw [herror]; exact Bool.false_ne_true)
      constructor
      · rw [hdistinct, List.filter_append, List.filter_append, h.warnings_eq]
      · rw [hdistinct, List.filter_append, List.filter_append, hnone, List.append_nil,
          List.append_nil, h.errors_eq]

end Accepts

theorem accepts_nil (config : QueueConfig) : Accepts config [] [] := by
  have hdistinct : distinct config [] = [] := ite_self []
  have herrors : upToLimit config [] = [] := by
    rw [upToLimit, List.take_nil, ite_self]
  exact ⟨by rw [hdistinct], by rw [hdistinct, List.filter_nil, herrors]⟩

/-- **A queue accepts every warning, and the first errors up to its limit**, each once if
    it drops repeats. -/
theorem accepts_accepted (config : QueueConfig) (ds : List Diagnostic) :
    Accepts config ds ((empty config).accepted ds) := by
  induction ds using List.reverseRecOn with
  | nil => exact accepts_nil config
  | append_singleton ds d ih =>
      have hseen := ((consistent_empty config).extend ds).mem_seen_iff
      rw [config_extend, queued_extend_empty] at hseen
      rw [accepted_concat]
      rcases push_cases ((empty config).extend ds) d with
        ⟨herror, hlimit, hpush⟩ | ⟨-, hdeduplicate, hd, hpush⟩ | ⟨htaken, hnew, hpush⟩
      · rw [hpush]
        exact ih.refused herror ((limitReached_extend_iff config ds).mp hlimit)
      · rw [config_extend] at hdeduplicate
        rw [hpush]
        have hmem := (hseen hdeduplicate d).mp hd
        exact ih.repeated hdeduplicate ((sublist_accepted _ ds).subset hmem)
      · rw [limitReached_extend_iff] at htaken
        rw [config_extend] at hnew
        rw [hpush]
        exact ih.taken htaken fun hrepeat =>
          hnew ⟨hrepeat.1, (hseen hrepeat.1 d).mpr hrepeat.2⟩

/-! ## Flushing -/

/-- An error arrives when the limit is reached already. -/
def ArrivesAtLimit (config : QueueConfig) (arrived : List Diagnostic) : Prop :=
  ∃ before d after, arrived = before ++ d :: after ∧ d.isError = true ∧
    FillsLimit config ((empty config).accepted before)

/-- A push marks the queue exactly if it brings an error and the limit is reached already. -/
theorem overflowed_push_iff (q : ReportQueue) (d : Diagnostic) :
    (q.push d).2.overflowed = true ↔
      q.overflowed = true ∨ d.isError = true ∧ q.limitReached = true := by
  rcases push_cases q d with ⟨herror, hlimit, hpush⟩ | ⟨htaken, -, -, hpush⟩ | ⟨htaken, -, hpush⟩
  · rw [hpush]
    exact iff_of_true rfl (.inr ⟨herror, hlimit⟩)
  · rw [hpush]
    exact (or_iff_left htaken).symm
  · rw [hpush]
    exact (or_iff_left htaken).symm

/-- A queue is marked exactly if an error arrived when its limit was reached already. -/
theorem overflowed_extend_iff (config : QueueConfig) (ds : List Diagnostic) :
    ((empty config).extend ds).overflowed = true ↔ ArrivesAtLimit config ds := by
  induction ds using List.reverseRecOn with
  | nil =>
      refine iff_of_false Bool.false_ne_true ?_
      rintro ⟨before, d, after, hsplit, -⟩
      exact List.append_ne_nil_of_right_ne_nil before (List.cons_ne_nil d after) hsplit.symm
  | append_singleton ds d ih =>
      rw [extend_append]
      show (((empty config).extend ds).push d).2.overflowed = true ↔ _
      rw [overflowed_push_iff, ih, limitReached_extend_iff]
      constructor
      · rintro (⟨before, e, after, rfl, hrefused⟩ | hrefused)
        · exact ⟨before, e, after ++ [d], List.append_assoc .., hrefused⟩
        · exact ⟨ds, d, [], rfl, hrefused⟩
      · rintro ⟨before, e, after, hsplit, hrefused⟩
        rcases List.eq_nil_or_concat after with rfl | ⟨after, last, rfl⟩
        · obtain ⟨rfl, hlast⟩ := List.append_inj' hsplit rfl
          obtain rfl := List.singleton_inj.mp hlast
          exact .inr hrefused
        · rw [List.concat_eq_append, ← List.cons_append, ← List.append_assoc] at hsplit
          obtain ⟨rfl, -⟩ := List.append_inj' hsplit rfl
          exact .inl ⟨before, e, after, rfl, hrefused⟩

/-- What the queue has accepted since it was new or was last flushed. -/
def acceptedSince (config : QueueConfig) (requests : List QueueRequest) : List Diagnostic :=
  (empty config).accepted (arrivals requests)

theorem queued_after (config : QueueConfig) (requests : List QueueRequest) :
    ((empty config).after requests).queued = acceptedSince config requests := by
  rw [after_eq_extend_arrivals, queued_extend_empty]
  rfl

theorem overflowed_after_iff (config : QueueConfig) (requests : List QueueRequest) :
    ((empty config).after requests).overflowed = true
      ↔ ArrivesAtLimit config (arrivals requests) := by
  rw [after_eq_extend_arrivals, overflowed_extend_iff]

/-- The diagnostic says that errors were dropped at the limit.  It is an error itself, and
    stands at the place. -/
structure TellsLimit (limit : Nat) (place : Span) (e : Diagnostic) : Prop where
  code : e.code = .errorLimit
  isError : e.isError = true
  message : e.message = "stopped reporting errors after " ++ toString limit
  labels : e.labels = [⟨place, "limit reached here", true⟩]
  notes : e.notes = ["raise `error_limit` in `DiagnosticConfig` to see the rest"]
  suggestions : e.suggestions = []

theorem tellsLimit_errorLimitSummary (limit : Nat) (place : Span) :
    TellsLimit limit place (.errorLimitSummary limit place) :=
  ⟨rfl, rfl, rfl, rfl, rfl, rfl⟩

/-- What is handed back: the accepted diagnostics, and a summary if one is due. -/
structure HandedBack (config : QueueConfig) (arrived accepted out : List Diagnostic) : Prop where
  /-- The accepted diagnostics in the order of the source, then the summary. -/
  parts : ∃ sorted summary, out = sorted ++ summary ∧ StablySorted sorted accepted ∧
    (ArrivesAtLimit config arrived → ∃ place, IsLastPlace place accepted ∧
      summary = [.errorLimitSummary config.errorLimit place] ∧
      ∀ e ∈ summary, TellsLimit config.errorLimit place e) ∧
    (¬ArrivesAtLimit config arrived → summary = [])
  /-- The summary is no exception to the order. -/
  pairwise : out.Pairwise Diagnostic.NotAfter

/-- The last place depends on the diagnostics, not on their order. -/
theorem isLastPlace_congr {place : Span} {sorted : List Diagnostic} (h : sorted.Perm ds) :
    IsLastPlace place sorted ↔ IsLastPlace place ds := by
  simp only [IsLastPlace, h.mem_iff]

/-- **A flush hands back what was accepted**, and the summary exactly if it is due. -/
theorem handedBack_flushed (config : QueueConfig) (requests : List QueueRequest) :
    HandedBack config (arrivals requests) (acceptedSince config requests)
      ((empty config).after requests).flushed := by
  have hsorted := stablySorted_mergeSort (acceptedSince config requests)
  obtain ⟨hplace, hlast⟩ := notAfter_errorLimitSummary config.errorLimit
    ((acceptedSince config requests).mergeSort inOrder)
  rw [flushed, queued_after, config_after]
  by_cases hlimit : ArrivesAtLimit config (arrivals requests)
  · rw [if_pos ((overflowed_after_iff config requests).mpr hlimit)]
    refine ⟨⟨_, _, rfl, hsorted, ?_, fun hnone => absurd hlimit hnone⟩, ?_⟩
    · intro _
      refine ⟨_, (isLastPlace_congr hsorted.perm).mp hplace, rfl, ?_⟩
      intro e he
      rw [List.mem_singleton.mp he]
      exact tellsLimit_errorLimitSummary _ _
    · refine List.pairwise_append.mpr ⟨hsorted.pairwise, List.pairwise_singleton _ _, ?_⟩
      intro d hd e he
      rw [List.mem_singleton.mp he]
      exact hlast d hd
  · rw [if_neg (mt (overflowed_after_iff config requests).mp hlimit)]
    refine ⟨⟨_, [], (List.append_nil _).symm, hsorted, ?_, fun _ => rfl⟩, hsorted.pairwise⟩
    intro hdue
    exact absurd hdue hlimit

/-- **A flush loses and reorders nothing that it should keep.**  Of the diagnostics that
    arrived since the queue was new or was last flushed it hands back every warning
    and the first errors up to the limit, each once if repeats are dropped, sorted
    stably, and a summary exactly if an error arrived at the limit.  What was
    rejected is such an error or the repeat of an accepted one, and the queue is as
    good as new. -/
theorem flush_keeps_accepted (config : QueueConfig) (history : List QueueRequest) :
    -- what is accepted of the arrivals
    ((acceptedSince config history).Sublist (arrivals history) ∧
      Accepts config (arrivals history) (acceptedSince config history) ∧
      (config.deduplicate = true → (acceptedSince config history).Nodup)) ∧
    -- what is rejected on arrival
    (∀ before d, (((empty config).extend before).push d).1 = false ↔
      d.isError = true ∧ FillsLimit config ((empty config).accepted before) ∨
      config.deduplicate = true ∧ d ∈ (empty config).accepted before) ∧
    -- what comes of a flush
    HandedBack config (arrivals history) (acceptedSince config history)
      (((empty config).after history).flush).1 ∧
    (((empty config).after history).flush).2 = empty config ∧
    ∀ later, (((empty config).after history).flush).2.observed later
      = (empty config).observed later := by
  have hreachable : ((empty config).after history).Reachable config := ⟨history, rfl⟩
  have hempty : (((empty config).after history).flush).2 = empty config :=
    congrArg empty hreachable.config_eq
  refine ⟨⟨sublist_accepted _ _, accepts_accepted config _, ?_⟩,
    push_extend_eq_false_iff config, handedBack_flushed config history, hempty, ?_⟩
  · intro hdeduplicate
    rw [← queued_after]
    exact hreachable.filtered.nodup (by rwa [hreachable.config_eq])
  · intro later
    rw [hempty]

/-- A later error than `valueReturned`. -/
def notDeclaredStatic : Diagnostic :=
  .labeled .notStatic "b" ⟨5, 6⟩ "there" []

/-- One error before a flush, and two after it. -/
def twoErrorsAfterFlush : List QueueRequest :=
  [.push notDeclaredStatic, .flush, .emitError valueReturned, .push notDeclaredStatic]

/-- Of the two errors one is too many, and the summary takes its place. -/
theorem flush_keeps_accepted_of_two :
    arrivals twoErrorsAfterFlush = [valueReturned, notDeclaredStatic] ∧
      acceptedSince ⟨1, true⟩ twoErrorsAfterFlush = [valueReturned] ∧
      ArrivesAtLimit ⟨1, true⟩ (arrivals twoErrorsAfterFlush) ∧
      ∃ sorted place, StablySorted sorted [valueReturned] ∧
        IsLastPlace place [valueReturned] ∧
        (((empty ⟨1, true⟩).after twoErrorsAfterFlush).flush).1
          = sorted ++ [.errorLimitSummary 1 place] ∧
        TellsLimit 1 place (.errorLimitSummary 1 place) := by
  have haccepted : acceptedSince ⟨1, true⟩ twoErrorsAfterFlush = [valueReturned] := by decide
  have hlimit : ArrivesAtLimit ⟨1, true⟩ (arrivals twoErrorsAfterFlush) :=
    ⟨[valueReturned], notDeclaredStatic, [], rfl, rfl, by decide, by decide⟩
  obtain ⟨-, -, hhanded, -⟩ := flush_keeps_accepted ⟨1, true⟩ twoErrorsAfterFlush
  obtain ⟨sorted, summary, hout, hsorted, hdue, -⟩ := hhanded.parts
  obtain ⟨place, hplace, rfl, htells⟩ := hdue hlimit
  rw [haccepted] at hsorted hplace
  exact ⟨rfl, haccepted, hlimit, sorted, place, hsorted, hplace, hout,
    htells _ List.mem_cons_self⟩

end ReportQueue

end StructuredLog
