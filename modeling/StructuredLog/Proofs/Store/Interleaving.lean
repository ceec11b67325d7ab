import Mathlib.Logic.Function.Basic
import StructuredLog.Store.Session

/-! # Interleaving — sessions that share a store

    A store answers one request at a time, and between two requests of one
    session others may make theirs.  A meeting is a store with the sessions of
    several parties and the history of the requests made so far; a schedule
    says whose turn is next.  Only requests to the store take a turn: what a
    session asks the front end is answered on the spot.

    A party alone at a meeting holds its session as with a store of its own
    (`Session.run_step?`). -/

namespace StructuredLog

/-- A request that the store has answered. -/
inductive StoreEvent where
  | generation
  | snapshot
  | create
  /-- An append, and whether it was accepted. -/
  | append (accepted : Bool)
  deriving DecidableEq, Repr

namespace Session

variable {α : Type}

/-- A session gone on to its next request to the store: a call is found where it
    was, and nothing is cancelled. -/
def settled : Session α → Session α
  | .relocate call next => (next (some call.span)).settled
  | .isCancelled next => (next false).settled
  | .done result => .done result
  | .generation next => .generation next
  | .snapshot name next => .snapshot name next
  | .create name next => .create name next
  | .append name expected d next => .append name expected d next

/-- The result of a session that is done. -/
def result? : Session α → Option α
  | .done result => some result
  | _ => none

/-- The answer to a session's request, how the session goes on, and the store
    afterwards; none when the session makes no request to the store. -/
def step? : Session α → Store → Option (StoreEvent × Session α × Store)
  | .generation next, s => some (.generation, (next s.generation).settled, s)
  | .snapshot name next, s => some (.snapshot, (next (.ok (s.snapshot? name))).settled, s)
  | .create name next, s => some (.create, (next (.ok ())).settled, s.create name)
  | .append name expected d next, s =>
    let (answer, after) := s.append name expected d
    some (.append answer.isOk, (next answer).settled, after)
  | .done _, _ => none
  | .relocate _ _, _ => none
  | .isCancelled _, _ => none

theorem result?_eq_some_iff {session : Session α} {result : α} :
    session.result? = some result ↔ session = .done result := by
  cases session with
  | done a =>
      constructor
      · intro h
        rw [Option.some.inj h]
      · intro h
        rw [h]
        rfl
  | generation _ | snapshot _ _ | create _ _ | append _ _ _ _ | relocate _ _ | isCancelled _ =>
      exact ⟨(nomatch ·), (nomatch ·)⟩

/-- A store of one's own finds every call and cancels nothing. -/
theorem run_settled (session : Session α) (s : Store) :
    session.settled.run Store.host s = session.run Store.host s := by
  induction session with
  | relocate call next ih => exact ih (some call.span)
  | isCancelled next ih => exact ih false
  | done _ | generation _ _ | snapshot _ _ _ | create _ _ _ | append _ _ _ _ _ => rfl

/-- **Making one request after another is holding the session.** -/
theorem run_step? {session next : Session α} {s after : Store} {event : StoreEvent}
    (h : session.step? s = some (event, next, after)) :
    session.run Store.host s = next.run Store.host after := by
  cases session with
  | done _ | relocate _ _ | isCancelled _ => exact nomatch h
  | generation _ | snapshot _ _ | create _ _ | append _ _ _ _ =>
      obtain ⟨-, hrest⟩ := Prod.mk.inj (Option.some.inj h)
      obtain ⟨rfl, rfl⟩ := Prod.mk.inj hrest
      rw [run_settled]
      rfl

end Session

/-! ## Meetings -/

/-- A store, the sessions of the parties, and the requests made so far. -/
structure Meeting (ι α : Type) where
  store : Store
  sessions : ι → Session α
  /-- The earliest request comes first. -/
  history : List (ι × StoreEvent) := []

namespace Meeting

variable {ι α : Type}

/-- The parties come to a store. -/
def start (s : Store) (sessions : ι → Session α) : Meeting ι α where
  store := s
  sessions := fun i => (sessions i).settled

/-- The result of a party that is done. -/
def result? (m : Meeting ι α) (i : ι) : Option α :=
  (m.sessions i).result?

variable [DecidableEq ι]

/-- The meeting once a party's request has been answered. -/
def answered (m : Meeting ι α) (i : ι) (event : StoreEvent) (next : Session α) (after : Store) :
    Meeting ι α where
  store := after
  sessions := Function.update m.sessions i next
  history := m.history ++ [(i, event)]

/-- A party takes a turn; it passes if it has no request. -/
def move (m : Meeting ι α) (i : ι) : Meeting ι α :=
  match (m.sessions i).step? m.store with
  | none => m
  | some (event, next, after) => m.answered i event next after

theorem result?_answered_self (m : Meeting ι α) (i : ι) (event : StoreEvent) (next : Session α)
    (after : Store) : (m.answered i event next after).result? i = next.result? := by
  show (Function.update m.sessions i next i).result? = _
  rw [Function.update_self]

theorem result?_answered_of_ne {i j : ι} (hne : j ≠ i) (m : Meeting ι α) (event : StoreEvent)
    (next : Session α) (after : Store) :
    (m.answered i event next after).result? j = m.result? j := by
  show (Function.update m.sessions i next j).result? = _
  rw [Function.update_of_ne hne]
  rfl

/-- The parties take their turns. -/
def run (m : Meeting ι α) (schedule : List ι) : Meeting ι α :=
  schedule.foldl move m

/-- What every turn keeps, every schedule keeps. -/
theorem run_induction {P : Meeting ι α → Prop} (hmove : ∀ m i, P m → P (m.move i))
    {m : Meeting ι α} (hm : P m) (schedule : List ι) : P (m.run schedule) := by
  induction schedule generalizing m with
  | nil => exact hm
  | cons i schedule ih => exact ih (hmove m i hm)

end Meeting

/-! ## Decisive requests -/

section History

variable {ι : Type} {history : List (ι × StoreEvent)} {i j : ι} {event : StoreEvent} {t : Nat}

/-- The decisive request of a party: its accepted append, or its last snapshot when
    none of its appends was accepted. -/
def DecidedAt (history : List (ι × StoreEvent)) (i : ι) (t : Nat) : Prop :=
  history[t]? = some (i, .append true) ∨
    (i, .append true) ∉ history ∧ history[t]? = some (i, .snapshot) ∧
      ∀ u, t < u → history[u]? ≠ some (i, .snapshot)

/-- The decisive request of the one party, if it has one, came before that of the
    other. -/
def DecidedBefore (history : List (ι × StoreEvent)) (i j : ι) : Prop :=
  ∀ t u, DecidedAt history i t → DecidedAt history j u → t < u

theorem DecidedAt.getElem? (h : DecidedAt history i t) :
    ∃ event, history[t]? = some (i, event) := by
  rcases h with h | ⟨-, h, -⟩
  · exact ⟨_, h⟩
  · exact ⟨_, h⟩

theorem DecidedAt.lt_length (h : DecidedAt history i t) : t < history.length := by
  obtain ⟨event, h⟩ := h.getElem?
  exact (List.getElem?_eq_some_iff.mp h).1

/-- One more request of another party changes nothing about one's own. -/
theorem getElem?_concat_of_ne (hne : i ≠ j) (other : StoreEvent) :
    (history ++ [(j, other)])[t]? = some (i, event) ↔ history[t]? = some (i, event) := by
  rw [List.getElem?_append]
  by_cases ht : t < history.length
  · rw [if_pos ht]
  · rw [if_neg ht, List.getElem?_eq_none (Nat.le_of_not_lt ht)]
    constructor
    · intro h
      rw [List.getElem?_singleton] at h
      by_cases hzero : t - history.length = 0
      · rw [if_pos hzero] at h
        exact absurd (Prod.mk.inj (Option.some.inj h)).1.symm hne
      · rw [if_neg hzero] at h
        exact nomatch h
    · intro h
      exact nomatch h

/-- The requests of others do not change when a party decided. -/
theorem decidedAt_concat_of_ne (hne : i ≠ j) (other : StoreEvent) :
    DecidedAt (history ++ [(j, other)]) i t ↔ DecidedAt history i t := by
  have hmem : (i, StoreEvent.append true) ∈ history ++ [(j, other)]
      ↔ (i, StoreEvent.append true) ∈ history := by
    rw [List.mem_append, List.mem_singleton, Prod.mk.injEq]
    exact or_iff_left fun h => hne h.1
  simp only [DecidedAt, getElem?_concat_of_ne hne, hmem, ne_eq]

/-- A party whose first accepted append is just now decides now. -/
theorem decidedAt_concat_append (hnew : (i, .append true) ∉ history) :
    DecidedAt (history ++ [(i, .append true)]) i t ↔ t = history.length := by
  constructor
  · rintro (h | ⟨hnone, -, -⟩)
    · -- an accepted append before the last request would be in the old history
      by_contra hne
      have ht : t < history.length := by
        have hlt := (List.getElem?_eq_some_iff.mp h).1
        rw [List.length_append, List.length_singleton] at hlt
        omega
      rw [List.getElem?_append_left ht] at h
      exact hnew (List.mem_of_getElem? h)
    · exact absurd (List.mem_append_right _ List.mem_cons_self) hnone
  · rintro rfl
    exact .inl List.getElem?_concat_length

/-- A party that has no append accepted, and reads just now, decides now. -/
theorem decidedAt_concat_snapshot (hnew : (i, .append true) ∉ history) :
    DecidedAt (history ++ [(i, .snapshot)]) i t ↔ t = history.length := by
  have hmem : (i, StoreEvent.append true) ∉ history ++ [(i, .snapshot)] := by
    rw [List.mem_append, List.mem_singleton, Prod.mk.injEq]
    rintro (h | ⟨-, h⟩)
    · exact hnew h
    · exact nomatch h
  have hlast : (history ++ [(i, StoreEvent.snapshot)])[history.length]? = some (i, .snapshot) :=
    List.getElem?_concat_length
  constructor
  · rintro (h | ⟨-, h, hlater⟩)
    · exact absurd (List.mem_of_getElem? h) hmem
    · have hlt := (List.getElem?_eq_some_iff.mp h).1
      rw [List.length_append, List.length_singleton] at hlt
      -- an earlier snapshot is not the last one
      by_contra hne
      exact hlater history.length (by omega) hlast
  · rintro rfl
    refine .inr ⟨hmem, hlast, ?_⟩
    intro u hu h
    have hlt := (List.getElem?_eq_some_iff.mp h).1
    rw [List.length_append, List.length_singleton] at hlt
    omega

end History

end StructuredLog
