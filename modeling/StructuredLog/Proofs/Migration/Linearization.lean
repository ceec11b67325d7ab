import Mathlib.Data.Fintype.Basic
import Mathlib.Data.List.Perm.Basic
import StructuredLog.Proofs.Migration.Phases

/-! # Linearization — migrators that share a store

    Migrators that meet at one store take their turns in any order.  Each one
    that comes to a verdict does so at its decisive request, on the
    declarations that the store has at that moment; so the migrations could as
    well have been made one after another, in the order of the decisive
    requests, and would have had the same results and left the same
    declarations (`migrations_linearize`).

    The invariant keeps the list of the migrators that have decided, the
    earliest first, whose replay on the declarations of the start has come to
    what the store declares now (`Migrator.Linearized`). -/

namespace StructuredLog

variable {ι : Type}

/-- Every migration that was refused or came to a verdict, in the order of the
    decisive requests; those without a decisive request stand anywhere. -/
structure Meeting.IsDecisionOrder (m : Meeting ι MigrationResult) (order : List ι) : Prop where
  nodup : order.Nodup
  mem_iff : ∀ i, i ∈ order ↔ ∃ result, m.result? i = some result ∧ gaveUp result = false
  ordered : order.Pairwise (DecidedBefore m.history)

namespace Migrator

/-- The migrators have decided in this order, and the store declares what comes of
    that. -/
structure Linearized (migrators : ι → Migrator) (start : Store)
    (m : Meeting ι MigrationResult) (decided : List ι) : Prop where
  consistent : m.store.Consistent
  phase : ∀ i, (migrators i).Phase m.store (m.sessions i)
  nodup : decided.Nodup
  mem_iff : ∀ i, i ∈ decided ↔ (migrators i).wish.isOk = true ∧
    ∃ result, m.result? i = some result ∧ gaveUp result = false
  wants : ∀ i event, (i, event) ∈ m.history → (migrators i).wish.isOk = true
  appended : ∀ i, (i, .append true) ∈ m.history → i ∈ decided
  timed : ∀ i ∈ decided, ∃ t, DecidedAt m.history i t
  ordered : decided.Pairwise (DecidedBefore m.history)
  results : decided.map m.result?
    = (decideAll (decided.map migrators) start.declarations).1.map some
  ledger : (decideAll (decided.map migrators) start.declarations).2 = m.store.declarations

variable {migrators : ι → Migrator} {start : Store} {m : Meeting ι MigrationResult}
  {decided : List ι} {i : ι}

/-- A migrator that has not begun has not decided. -/
theorem phase_start (i : ι) (s : Store) :
    (migrators i).Phase s (migrators i).session.settled ∧
      ((migrators i).wish.isOk = true →
        ∀ result, (migrators i).session.settled.result? = some result → gaveUp result = true) := by
  cases hwish : (migrators i).wish with
  | error e =>
      rw [session_of_error hwish]
      exact ⟨.refused hwish, (nomatch ·)⟩
  | ok wish =>
      rw [session_of_ok hwish, AdHocCall.settled_attempt]
      exact ⟨.ready hwish _ (Nat.zero_le _), fun _ _ => AdHocCall.gaveUp_of_result?_attempt⟩

/-- Before the first turn nobody has decided, and the store is the one at the start. -/
theorem linearized_start (migrators : ι → Migrator) (hstart : start.Consistent) :
    Linearized migrators start (.start start fun i => (migrators i).session) [] where
  consistent := hstart
  phase i := (phase_start i start).1
  nodup := .nil
  mem_iff i := by
    constructor
    · intro h
      exact nomatch h
    · rintro ⟨hok, result, hresult, hnot⟩
      exact absurd ((phase_start i start).2 hok result hresult) (hnot ▸ Bool.false_ne_true)
  wants _ _ h := nomatch h
  appended _ h := nomatch h
  timed _ h := nomatch h
  ordered := .nil
  results := rfl
  ledger := rfl

/-! ## One more request -/

theorem Linearized.not_mem_of_step? (h : Linearized migrators start m decided)
    {step : StoreEvent × Session MigrationResult × Store}
    (hstep : (m.sessions i).step? m.store = some step) : i ∉ decided := by
  intro hi
  obtain ⟨-, result, hresult, -⟩ := (h.mem_iff i).mp hi
  rw [Session.result?_eq_some_iff.mp hresult] at hstep
  exact nomatch hstep

/-- The order of those who decided does not depend on the requests of others. -/
theorem Linearized.ordered_concat (h : Linearized migrators start m decided) (hi : i ∉ decided)
    (event : StoreEvent) : decided.Pairwise (DecidedBefore (m.history ++ [(i, event)])) := by
  refine h.ordered.imp_of_mem ?_
  intro a b ha hb hab t u ht hu
  have hta := (decidedAt_concat_of_ne (ne_of_mem_of_not_mem ha hi) event).mp ht
  have hub := (decidedAt_concat_of_ne (ne_of_mem_of_not_mem hb hi) event).mp hu
  exact hab t u hta hub

theorem Linearized.timed_concat (h : Linearized migrators start m decided) (hi : i ∉ decided)
    (event : StoreEvent) : ∀ a ∈ decided, ∃ t, DecidedAt (m.history ++ [(i, event)]) a t := by
  intro a ha
  obtain ⟨t, ht⟩ := h.timed a ha
  exact ⟨t, (decidedAt_concat_of_ne (ne_of_mem_of_not_mem ha hi) event).mpr ht⟩

theorem Linearized.wants_concat (h : Linearized migrators start m decided)
    (hok : (migrators i).wish.isOk = true) (event : StoreEvent) :
    ∀ j e, (j, e) ∈ m.history ++ [(i, event)] → (migrators j).wish.isOk = true := by
  intro j e hmem
  rcases List.mem_append.mp hmem with hmem | hmem
  · exact h.wants j e hmem
  · obtain ⟨rfl, -⟩ := Prod.mk.inj (List.mem_singleton.mp hmem)
    exact hok

/-- A decisive request is decisive from the moment that it is made. -/
theorem Linearized.decidedAt_concat_iff (h : Linearized migrators start m decided)
    (hi : i ∉ decided) {event : StoreEvent} (hevent : event = .snapshot ∨ event = .append true)
    {t : Nat} : DecidedAt (m.history ++ [(i, event)]) i t ↔ t = m.history.length := by
  have hnew : (i, .append true) ∉ m.history := fun hmem => hi (h.appended i hmem)
  rcases hevent with rfl | rfl
  · exact decidedAt_concat_snapshot hnew
  · exact decidedAt_concat_append hnew

variable [DecidableEq ι]

/-- The phases hold after a turn: those of the others by the course of the store. -/
theorem Linearized.phase_answered (h : Linearized migrators start m decided) {after : Store}
    {next : Session MigrationResult} (hafter : m.store.Precedes after)
    (hnext : (migrators i).Phase after next) (event : StoreEvent) (j : ι) :
    (migrators j).Phase after ((m.answered i event next after).sessions j) := by
  show (migrators j).Phase after (Function.update m.sessions i next j)
  by_cases hj : j = i
  · rw [hj, Function.update_self]
    exact hnext
  · rw [Function.update_of_ne hj]
    exact (h.phase j).mono hafter

theorem map_result?_answered (hi : i ∉ decided) (m : Meeting ι MigrationResult)
    (event : StoreEvent) (next : Session MigrationResult) (after : Store) :
    decided.map (m.answered i event next after).result? = decided.map m.result? := by
  refine List.map_congr_left ?_
  intro j hj
  exact Meeting.result?_answered_of_ne (ne_of_mem_of_not_mem hj hi) m event next after

/-- A turn that goes on keeps the order. -/
theorem Linearized.goesOn (h : Linearized migrators start m decided) {event : StoreEvent}
    {next : Session MigrationResult} {after : Store} (hi : i ∉ decided)
    (hok : (migrators i).wish.isOk = true) (hafter : m.store.Precedes after)
    (hconsistent : after.Consistent) (hphase : (migrators i).Phase after next)
    (hevent : event ≠ .append true)
    (hnext : ∀ result, next.result? = some result → gaveUp result = true)
    (hledger : after.declarations = m.store.declarations) :
    Linearized migrators start (m.answered i event next after) decided where
  consistent := hconsistent
  phase := h.phase_answered hafter hphase event
  nodup := h.nodup
  mem_iff j := by
    by_cases hj : j = i
    · rw [hj, Meeting.result?_answered_self]
      refine iff_of_false hi ?_
      rintro ⟨-, result, hresult, hnot⟩
      exact absurd (hnext result hresult) (hnot ▸ Bool.false_ne_true)
    · rw [Meeting.result?_answered_of_ne hj]
      exact h.mem_iff j
  wants := h.wants_concat hok event
  appended j hmem := by
    rcases List.mem_append.mp hmem with hmem | hmem
    · exact h.appended j hmem
    · exact absurd (Prod.mk.inj (List.mem_singleton.mp hmem)).2.symm hevent
  timed := h.timed_concat hi event
  ordered := h.ordered_concat hi event
  results := by
    rw [map_result?_answered hi]
    exact h.results
  ledger := h.ledger.trans hledger.symm

/-- A turn that decides adds the migrator to the end of the order. -/
theorem Linearized.decides (h : Linearized migrators start m decided) {event : StoreEvent}
    {result : MigrationResult} {after : Store} (hi : i ∉ decided)
    (hok : (migrators i).wish.isOk = true) (hafter : m.store.Precedes after)
    (hconsistent : after.Consistent) (hphase : (migrators i).Phase after (.done result))
    (hevent : event = .snapshot ∨ event = .append true) (hresult : gaveUp result = false)
    (hdecide : (migrators i).decide m.store.declarations = (result, after.declarations)) :
    Linearized migrators start (m.answered i event (.done result) after) (decided ++ [i]) := by
  have hall : decideAll ((decided ++ [i]).map migrators) start.declarations
      = ((decideAll (decided.map migrators) start.declarations).1 ++ [result],
          after.declarations) := by
    rw [List.map_append]
    show decideAll (_ ++ [migrators i]) _ = _
    rw [decideAll_concat, h.ledger, hdecide]
  constructor
  case consistent => exact hconsistent
  case phase => exact h.phase_answered hafter hphase event
  case nodup =>
    refine List.nodup_append.mpr ⟨h.nodup, List.nodup_singleton i, ?_⟩
    intro a ha b hb
    rw [List.mem_singleton.mp hb]
    exact ne_of_mem_of_not_mem ha hi
  case mem_iff =>
    intro j
    rw [List.mem_append, List.mem_singleton]
    by_cases hj : j = i
    · rw [hj, Meeting.result?_answered_self]
      exact iff_of_true (.inr rfl) ⟨hok, result, rfl, hresult⟩
    · rw [Meeting.result?_answered_of_ne hj, or_iff_left hj]
      exact h.mem_iff j
  case wants => exact h.wants_concat hok event
  case appended =>
    intro j hmem
    rcases List.mem_append.mp hmem with hmem | hmem
    · exact List.mem_append_left _ (h.appended j hmem)
    · rw [(Prod.mk.inj (List.mem_singleton.mp hmem)).1]
      exact List.mem_append_right _ List.mem_cons_self
  case timed =>
    intro j hmem
    rcases List.mem_append.mp hmem with hmem | hmem
    · exact h.timed_concat hi event j hmem
    · rw [List.mem_singleton.mp hmem]
      exact ⟨_, (h.decidedAt_concat_iff hi hevent).mpr rfl⟩
  case ordered =>
    refine List.pairwise_append.mpr
      ⟨h.ordered_concat hi event, List.pairwise_singleton _ i, ?_⟩
    intro a ha b hb t u ht hu
    rw [List.mem_singleton.mp hb] at hu
    -- the others decided in the history so far, and `i` just after it
    rw [(h.decidedAt_concat_iff hi hevent).mp hu]
    exact ((decidedAt_concat_of_ne (ne_of_mem_of_not_mem ha hi) event).mp ht).lt_length
  case results =>
    rw [hall, List.map_append, List.map_append, map_result?_answered hi, h.results]
    refine congrArg (_ ++ [·]) ?_
    exact Meeting.result?_answered_self m i event (.done result) after
  case ledger => rw [hall]; rfl

/-- **Each turn keeps the order**, up to one more migrator at its end. -/
theorem Linearized.move (h : Linearized migrators start m decided) (i : ι) :
    ∃ decided, Linearized migrators start (m.move i) decided := by
  rw [Meeting.move]
  cases hstep : (m.sessions i).step? m.store with
  | none => exact ⟨decided, h⟩
  | some step =>
      obtain ⟨event, next, after⟩ := step
      have hi := h.not_mem_of_step? hstep
      obtain ⟨hok, hafter, hconsistent, hphase, hturn⟩ := (h.phase i).turn h.consistent hstep
      cases hturn with
      | goesOn hevent hnext hledger =>
          exact ⟨decided, h.goesOn hi hok hafter hconsistent hphase hevent hnext hledger⟩
      | decides hevent hresult hdecide =>
          exact ⟨_, h.decides hi hok hafter hconsistent hphase hevent hresult hdecide⟩

/-! ## Every schedule -/

/-- The migrators meet at a store and take their turns. -/
def meet (migrators : ι → Migrator) (start : Store) (schedule : List ι) :
    Meeting ι MigrationResult :=
  (Meeting.start start fun i => (migrators i).session).run schedule

/-- Some order is kept through every schedule. -/
theorem linearized_meet (migrators : ι → Migrator) (hstart : start.Consistent)
    (schedule : List ι) :
    ∃ decided, Linearized migrators start (meet migrators start schedule) decided := by
  refine Meeting.run_induction (P := fun m => ∃ decided, Linearized migrators start m decided)
    ?_ ⟨[], linearized_start migrators hstart⟩ schedule
  rintro m i ⟨decided, h⟩
  exact h.move i

omit [DecidableEq ι] in
theorem Linearized.result?_of_error (h : Linearized migrators start m decided)
    {e : MigrationFailure} (hwish : (migrators i).wish = .error e) :
    m.result? i = some (.error e) := by
  have hdone := (h.phase i).session_of_error hwish
  rw [Meeting.result?, hdone]
  rfl

omit [DecidableEq ι] in
theorem Linearized.not_decidedAt (h : Linearized migrators start m decided)
    (hno : (migrators i).wish.isOk = false) (t : Nat) : ¬ DecidedAt m.history i t := by
  intro ht
  obtain ⟨event, hevent⟩ := ht.getElem?
  exact absurd (h.wants i event (List.mem_of_getElem? hevent)) (hno ▸ Bool.false_ne_true)

omit [DecidableEq ι] in
/-- Only the kept order is a decision order, but for the migrators that want no
    method. -/
theorem Linearized.filter_eq (h : Linearized migrators start m decided) {order : List ι}
    (horder : m.IsDecisionOrder order) :
    (order.filter fun i => (migrators i).wish.isOk) = decided := by
  -- the two lists have the same members, and are ordered by the same relation
  refine List.Perm.eq_of_pairwise ?_ (horder.ordered.filter _) h.ordered
    ((List.perm_ext_iff_of_nodup (horder.nodup.filter _) h.nodup).mpr ?_)
  · intro a b ha hb hab hba
    have hmem : a ∈ decided := (h.mem_iff a).mpr
      ⟨(List.mem_filter.mp ha).2, (horder.mem_iff a).mp (List.mem_filter.mp ha).1⟩
    obtain ⟨t, ht⟩ := h.timed a hmem
    obtain ⟨u, hu⟩ := h.timed b hb
    exact absurd (hab t u ht hu) (Nat.lt_asymm (hba u t hu ht))
  · intro i
    rw [List.mem_filter, horder.mem_iff, h.mem_iff, and_comm]

omit [DecidableEq ι] in
/-- The kept order, followed by the migrators that want no method, is a decision order. -/
theorem Linearized.exists_isDecisionOrder [Fintype ι] (h : Linearized migrators start m decided) :
    ∃ order, m.IsDecisionOrder order := by
  have hrefused : ∀ i, i ∈ (Finset.univ.filter fun i => (migrators i).wish.isOk = false).toList
      ↔ (migrators i).wish.isOk = false := by
    intro i
    rw [Finset.mem_toList, Finset.mem_filter]
    exact and_iff_right (Finset.mem_univ i)
  refine ⟨decided ++ (Finset.univ.filter fun i => (migrators i).wish.isOk = false).toList,
    List.nodup_append.mpr ⟨h.nodup, Finset.nodup_toList _, ?_⟩, ?_,
    List.pairwise_append.mpr ⟨h.ordered, ?_, ?_⟩⟩
  · rintro a ha b hb rfl
    exact absurd ((h.mem_iff a).mp ha).1 ((hrefused a).mp hb ▸ Bool.false_ne_true)
  · intro i
    rw [List.mem_append, h.mem_iff, hrefused]
    cases hwish : (migrators i).wish with
    | ok wish =>
        refine (or_iff_left fun hfalse => nomatch hfalse).trans (and_iff_right ?_)
        rfl
    | error e =>
        have hlies := AdHocCall.liesInCall_of_wish_eq_error hwish
        refine iff_of_true (.inr rfl) ⟨_, h.result?_of_error hwish, ?_⟩
        exact gaveUp_of_liesInCall hlies
  -- without decisive requests, the refused ones are in any order to all others
  · refine List.pairwise_of_forall_mem_list ?_
    intro a ha b _ t u ht _
    exact absurd ht (h.not_decidedAt ((hrefused a).mp ha) t)
  · intro a _ b hb t u _ hu
    exact absurd hu (h.not_decidedAt ((hrefused b).mp hb) u)

/-- **Concurrent migrations linearize.**  However migrators take their turns at a
    store, none fails for the store, none that gives up has appended anything,
    and the others can be replayed in every order that agrees with their
    decisive requests: one after another, from the same start, they have the
    same results and leave the same declarations. -/
theorem migrations_linearize [Fintype ι] (migrators : ι → Migrator)
    (hbudget : ∀ i, 2 ≤ (migrators i).options.retryBudget) (hstart : start.Reachable)
    (schedule : List ι) :
    (∀ i result, (meet migrators start schedule).result? i = some result →
      (∀ before after, result ≠ .error (.nonMonotonic before after)) ∧
        (∀ refusal, result ≠ .error (.store refusal)) ∧
        (gaveUp result = true → (i, .append true) ∉ (meet migrators start schedule).history)) ∧
      (∃ order, (meet migrators start schedule).IsDecisionOrder order) ∧
      ∀ order, (meet migrators start schedule).IsDecisionOrder order →
        order.map (meet migrators start schedule).result?
            = (replay (order.map migrators) start).1.map some ∧
          (replay (order.map migrators) start).2.declarations
            = (meet migrators start schedule).store.declarations := by
  obtain ⟨decided, h⟩ := linearized_meet migrators hstart.consistent schedule
  generalize meet migrators start schedule = m at h
  refine ⟨?_, h.exists_isDecisionOrder, ?_⟩
  · intro i result hresult
    have hphase := h.phase i
    rw [Session.result?_eq_some_iff.mp hresult] at hphase
    refine ⟨?_, ?_, ?_⟩
    · rintro before after rfl
      rcases hphase.failure_cases with hcase | hcase | hcase <;> exact nomatch hcase
    · rintro refusal rfl
      rcases hphase.failure_cases with hcase | hcase | hcase <;> exact nomatch hcase
    · intro hgaveUp hmem
      obtain ⟨-, result', hresult', hnot⟩ := (h.mem_iff i).mp (h.appended i hmem)
      obtain rfl := Option.some.inj (hresult.symm.trans hresult')
      exact absurd hgaveUp (hnot ▸ Bool.false_ne_true)
  · intro order horder
    have hkept := h.results
    rw [← h.filter_eq horder] at hkept
    obtain ⟨hresults, hledger⟩ := decideAll_of_filter start.declarations
      (fun i _ e hwish => h.result?_of_error hwish) hkept
    rw [h.filter_eq horder, h.ledger] at hledger
    have hbudgets : ∀ m ∈ order.map migrators, 2 ≤ m.options.retryBudget := by
      intro m hm
      obtain ⟨i, -, rfl⟩ := List.mem_map.mp hm
      exact hbudget i
    obtain ⟨hreplay, hdeclarations⟩ := replay_eq hstart.consistent hbudgets
    rw [hreplay, hdeclarations]
    exact ⟨hresults, hledger⟩

/-- Two migrators of one call. -/
def rivals (_ : Fin 2) : Migrator where
  table := .conventional
  options := {}
  call :=
    { method := "LogInformation"
      receiver := { text := "_logger", type? := some "ILogger" }
      arguments := [.ofText "-"] }

/-- The rivals in step: both create the container, and the second is refused once. -/
def rivalTurns : List (Fin 2) := [0, 1, 0, 1, 0, 1, 0, 1, 0, 1, 0, 1, 1, 1]

/-- Of two rivals for one method the first mints it and the second reuses it, as if they had
    come one after the other. -/
theorem migrations_linearize_rivals :
    (∀ i, 2 ≤ (rivals i).options.retryBudget) ∧ Store.empty.Reachable ∧
      ((meet rivals .empty rivalTurns).result? 0).map (·.map MigratedCall.isReused)
        = some (.ok false) ∧
      ((meet rivals .empty rivalTurns).result? 1).map (·.map MigratedCall.isReused)
        = some (.ok true) ∧
      ∃ order, (meet rivals .empty rivalTurns).IsDecisionOrder order ∧
        order.map (meet rivals .empty rivalTurns).result?
            = (replay (order.map rivals) .empty).1.map some ∧
          (replay (order.map rivals) .empty).2.declarations
            = (meet rivals .empty rivalTurns).store.declarations := by
  have hbudget : ∀ i, 2 ≤ (rivals i).options.retryBudget := by decide
  obtain ⟨-, ⟨order, horder⟩, hreplay⟩ := migrations_linearize rivals hbudget .empty rivalTurns
  exact ⟨hbudget, .empty, by decide +kernel, by decide +kernel, order, horder,
    hreplay order horder⟩

end Migrator

end StructuredLog
