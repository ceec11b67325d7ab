import StructuredLog.Proofs.Store.Consistency
import StructuredLog.Store.Session

/-! # Transcripts — what a session asks and what it is answered

    Of a host nothing is known but its answers, and these can be any at all.
    A transcript is the list of a session's requests with the answers that
    they got, up to the end of the session (`Session.Held`); every host makes
    one (`Session.exists_held`).

    A store of one's own stands beside a front end that answers what is not
    asked of the store (`FrontEnd.withStore`).  Such a store changes only
    where the transcript says so (`exists_held_withStore`), and the front end
    does not matter to a session that finds its calls and cannot be cancelled
    (`run_withStore_of_uninterruptible`).  What a session ensures whatever it is
    answered holds of its result with every host (`Ensures.run`). -/

namespace StructuredLog

/-- A request with its answer. -/
inductive Exchange where
  | generation (now : Nat)
  | snapshot (name : String) (answer : Except StoreRefusal (Option Snapshot))
  | create (name : String) (answer : Except StoreRefusal Unit)
  | append (name : String) (expected : Nat) (declaration : Declaration)
      (answer : Except StoreRefusal Nat)
  | relocate (call : AdHocCall) (answer : Option Span)
  | isCancelled (answer : Bool)
  deriving Repr

namespace Exchange

/-- Whether an append was asked for. -/
def isAppend : Exchange → Bool
  | .append _ _ _ _ => true
  | _ => false

/-- Whether an append was accepted. -/
def isAccepted : Exchange → Bool
  | .append _ _ _ answer => answer.isOk
  | _ => false

/-- Whether nothing was appended, and no container created but the one of the name. -/
def spares (container : String) : Exchange → Bool
  | .append _ _ _ answer => !answer.isOk
  | .create name _ => name == container
  | _ => true

/-- Whether no append was asked for, and no container but the one of the name. -/
def isIdle (container : String) : Exchange → Bool
  | .append _ _ _ _ => false
  | .create name _ => name == container
  | _ => true

theorem isAppend_of_isIdle {container : String} {x : Exchange} (h : x.isIdle container = true) :
    x.isAppend = false := by
  cases x with
  | append name expected d answer => exact nomatch h
  | generation | snapshot | create | relocate | isCancelled => rfl

theorem spares_of_isIdle {container : String} {x : Exchange} (h : x.isIdle container = true) :
    x.spares container = true := by
  cases x with
  | append name expected d answer => exact nomatch h
  | create name answer => exact h
  | generation | snapshot | relocate | isCancelled => rfl

theorem isAccepted_of_spares {container : String} {x : Exchange} (h : x.spares container = true) :
    x.isAccepted = false := by
  cases x with
  | append name expected d answer => exact (Bool.not_eq_true' _).mp h
  | generation | snapshot | create | relocate | isCancelled => rfl

end Exchange

variable {α σ : Type}

/-- A session can be held to its end with these exchanges, and comes to this result.
    The answers are any at all. -/
inductive Session.Held : Session α → List Exchange → α → Prop where
  | done (result : α) : Held (.done result) [] result
  | generation {next : Nat → Session α} {log : List Exchange} {result : α} (now : Nat)
      (h : Held (next now) log result) : Held (.generation next) (.generation now :: log) result
  | snapshot {name : String} {next : Except StoreRefusal (Option Snapshot) → Session α}
      {log : List Exchange} {result : α} (answer : Except StoreRefusal (Option Snapshot))
      (h : Held (next answer) log result) :
      Held (.snapshot name next) (.snapshot name answer :: log) result
  | create {name : String} {next : Except StoreRefusal Unit → Session α} {log : List Exchange}
      {result : α} (answer : Except StoreRefusal Unit) (h : Held (next answer) log result) :
      Held (.create name next) (.create name answer :: log) result
  | append {name : String} {expected : Nat} {d : Declaration}
      {next : Except StoreRefusal Nat → Session α} {log : List Exchange} {result : α}
      (answer : Except StoreRefusal Nat) (h : Held (next answer) log result) :
      Held (.append name expected d next) (.append name expected d answer :: log) result
  | relocate {call : AdHocCall} {next : Option Span → Session α} {log : List Exchange} {result : α}
      (answer : Option Span) (h : Held (next answer) log result) :
      Held (.relocate call next) (.relocate call answer :: log) result
  | isCancelled {next : Bool → Session α} {log : List Exchange} {result : α} (answer : Bool)
      (h : Held (next answer) log result) :
      Held (.isCancelled next) (.isCancelled answer :: log) result

/-- **Every host holds a session to its end.** -/
theorem Session.exists_held (host : Host σ) (session : Session α) (state : σ) :
    ∃ log, session.Held log (session.run host state).1 := by
  induction session generalizing state with
  | done result => exact ⟨[], .done result⟩
  | generation next ih => exact (ih _ _).imp' _ fun _ => .generation _
  | snapshot name next ih => exact (ih _ _).imp' _ fun _ => .snapshot _
  | create name next ih => exact (ih _ _).imp' _ fun _ => .create _
  | append name expected d next ih => exact (ih _ _).imp' _ fun _ => .append _
  | relocate call next ih => exact (ih _ _).imp' _ fun _ => .relocate _
  | isCancelled next ih => exact (ih _ _).imp' _ fun _ => .isCancelled _

/-! ## A store beside a front end -/

/-- Those who answer what is not asked of the store. -/
structure FrontEnd (σ : Type) where
  relocate : AdHocCall → σ → Option Span × σ
  isCancelled : σ → Bool × σ

namespace FrontEnd

/-- A store that nobody else uses, beside the front end. -/
def withStore (frontEnd : FrontEnd σ) : Host (Store × σ) where
  generation := fun (s, state) => (s.generation, s, state)
  snapshot := fun name (s, state) => (.ok (s.snapshot? name), s, state)
  create := fun name (s, state) => (.ok (), s.create name, state)
  append := fun name expected d (s, state) =>
    let (answer, s) := s.append name expected d
    (answer, s, state)
  relocate := fun call (s, state) =>
    let (answer, state) := frontEnd.relocate call state
    (answer, s, state)
  isCancelled := fun (s, state) =>
    let (answer, state) := frontEnd.isCancelled state
    (answer, s, state)

end FrontEnd

namespace Store

theorem create_create (s : Store) (name : String) : (s.create name).create name = s.create name := by
  obtain ⟨entry, hentry⟩ := s.entry?_create name
  exact create_of_present hentry

theorem append_of_refused {s : Store} {name : String} {expected : Nat} {d : Declaration}
    (h : (s.append name expected d).1.isOk = false) : (s.append name expected d).2 = s := by
  by_cases hgeneration : s.generation = expected
  · cases hentry : s.entry? name with
    | none => rw [append, if_neg (not_not_intro hgeneration), hentry]
    | some entry =>
        rw [append_of_eq hgeneration hentry] at h
        exact absurd h.symm Bool.false_ne_true
  · rw [append_of_ne hgeneration]

end Store

namespace Session

/-- **A store changes only where the transcript says so.**  Where nothing was
    appended and only one container created, that container is all that can be
    new. -/
theorem exists_held_withStore (frontEnd : FrontEnd σ) (container : String) (session : Session α)
    (s : Store) (state : σ) :
    ∃ log, session.Held log (session.run frontEnd.withStore (s, state)).1 ∧
      ((∀ x ∈ log, x.spares container = true) →
        (session.run frontEnd.withStore (s, state)).2.1 = s ∨
          (session.run frontEnd.withStore (s, state)).2.1 = s.create container) := by
  induction session generalizing s state with
  | done result => exact ⟨[], .done result, fun _ => .inl rfl⟩
  | generation next ih =>
      obtain ⟨log, hheld, hafter⟩ := ih s.generation s state
      exact ⟨_, .generation _ hheld, fun h => hafter (List.forall_mem_cons.mp h).2⟩
  | snapshot name next ih =>
      obtain ⟨log, hheld, hafter⟩ := ih (.ok (s.snapshot? name)) s state
      exact ⟨_, .snapshot _ hheld, fun h => hafter (List.forall_mem_cons.mp h).2⟩
  | relocate call next ih =>
      obtain ⟨log, hheld, hafter⟩ :=
        ih (frontEnd.relocate call state).1 s (frontEnd.relocate call state).2
      exact ⟨_, .relocate _ hheld, fun h => hafter (List.forall_mem_cons.mp h).2⟩
  | isCancelled next ih =>
      obtain ⟨log, hheld, hafter⟩ := ih (frontEnd.isCancelled state).1 s (frontEnd.isCancelled state).2
      exact ⟨_, .isCancelled _ hheld, fun h => hafter (List.forall_mem_cons.mp h).2⟩
  | create name next ih =>
      obtain ⟨log, hheld, hafter⟩ := ih (.ok ()) (s.create name) state
      refine ⟨_, .create _ hheld, ?_⟩
      intro h
      obtain ⟨hname, hrest⟩ := List.forall_mem_cons.mp h
      obtain rfl : name = container := beq_iff_eq.mp hname
      rw [s.create_create] at hafter
      exact .inr ((hafter hrest).elim id id)
  | append name expected d next ih =>
      obtain ⟨log, hheld, hafter⟩ :=
        ih (s.append name expected d).1 (s.append name expected d).2 state
      refine ⟨_, .append _ hheld, ?_⟩
      intro h
      obtain ⟨hrefused, hrest⟩ := List.forall_mem_cons.mp h
      have hkept := Store.append_of_refused ((Bool.not_eq_true' _).mp hrefused)
      rcases hafter hrest with hafter | hafter
      · exact .inl (hafter.trans hkept)
      · exact .inr (hafter.trans (congrArg (·.create container) hkept))

/-- The session never asks whether it was cancelled. -/
def Uninterruptible : Session α → Prop
  | .done _ => True
  | .generation next => ∀ answer, (next answer).Uninterruptible
  | .snapshot _ next => ∀ answer, (next answer).Uninterruptible
  | .create _ next => ∀ answer, (next answer).Uninterruptible
  | .append _ _ _ next => ∀ answer, (next answer).Uninterruptible
  | .relocate _ next => ∀ answer, (next answer).Uninterruptible
  | .isCancelled _ => False

/-- **A front end that finds every call where it was does not matter** to a session
    that never asks for more. -/
theorem run_withStore_of_uninterruptible {frontEnd : FrontEnd σ}
    (hfinds : ∀ call state, frontEnd.relocate call state = (some call.span, state))
    {session : Session α} (h : session.Uninterruptible) (s : Store) (state : σ) :
    session.run frontEnd.withStore (s, state)
      = ((session.run Store.host s).1, (session.run Store.host s).2, state) := by
  induction session generalizing s with
  | done result => rfl
  | generation next ih => exact ih _ (h _) s
  | snapshot name next ih => exact ih _ (h _) s
  | create name next ih => exact ih _ (h _) (s.create name)
  | append name expected d next ih => exact ih _ (h _) (s.append name expected d).2
  | relocate call next ih =>
      show (next (frontEnd.relocate call state).1).run frontEnd.withStore
        (s, (frontEnd.relocate call state).2) = _
      rw [hfinds]
      exact ih _ (h _) s
  | isCancelled next ih => exact h.elim

/-- Whatever the session is answered, its result is as told. -/
def Ensures (P : α → Prop) : Session α → Prop
  | .done result => P result
  | .generation next => ∀ answer, (next answer).Ensures P
  | .snapshot _ next => ∀ answer, (next answer).Ensures P
  | .create _ next => ∀ answer, (next answer).Ensures P
  | .append _ _ _ next => ∀ answer, (next answer).Ensures P
  | .relocate _ next => ∀ answer, (next answer).Ensures P
  | .isCancelled next => ∀ answer, (next answer).Ensures P

/-- **Every host gets what a session ensures.** -/
theorem Ensures.run {P : α → Prop} {session : Session α} (h : session.Ensures P) (host : Host σ)
    (state : σ) : P (session.run host state).1 := by
  induction session generalizing state with
  | done result => exact h
  | generation next ih => exact ih _ (h _) _
  | snapshot name next ih => exact ih _ (h _) _
  | create name next ih => exact ih _ (h _) _
  | append name expected d next ih => exact ih _ (h _) _
  | relocate call next ih => exact ih _ (h _) _
  | isCancelled next ih => exact ih _ (h _) _

/-- A property that sessions have once they are done, if their result is as told, and
    that comes back from whatever follows a request to the request, unless the
    request is whether the session was cancelled. -/
structure ComesBack (P : α → Prop) (Q : Session α → Prop) : Prop where
  done {result : α} : P result → Q (.done result)
  generation {next : Nat → Session α} : (∀ answer, Q (next answer)) → Q (.generation next)
  snapshot {name : String} {next : Except StoreRefusal (Option Snapshot) → Session α} :
    (∀ answer, Q (next answer)) → Q (.snapshot name next)
  create {name : String} {next : Except StoreRefusal Unit → Session α} :
    (∀ answer, Q (next answer)) → Q (.create name next)
  append {name : String} {expected : Nat} {d : Declaration}
    {next : Except StoreRefusal Nat → Session α} :
    (∀ answer, Q (next answer)) → Q (.append name expected d next)
  relocate {call : AdHocCall} {next : Option Span → Session α} :
    (∀ answer, Q (next answer)) → Q (.relocate call next)

theorem comesBack_ensures (P : α → Prop) : ComesBack P (Ensures P) :=
  ⟨id, id, id, id, id, id⟩

theorem comesBack_uninterruptible (P : α → Prop) : ComesBack P Uninterruptible :=
  ⟨fun _ => trivial, id, id, id, id, id⟩

end Session

end StructuredLog
