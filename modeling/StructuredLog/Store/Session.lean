import StructuredLog.AdHoc.Call
import StructuredLog.Store.Basic

/-! # Sessions — conversations with a store

    A migration does not own the store it works on: others may change the
    store between any two of its requests, and a store may fail.  A session is
    a finite conversation: at each point it is done, or makes one request and
    goes on with whatever it is answered.  The same session can thus be held
    with a plain store, with a store that fails as told, or step by step with
    other sessions in between.

    Besides the four requests to the store, a session asks the front end where
    a call now stands, and asks whether it has been cancelled. -/

namespace StructuredLog

/-- A conversation that ends with a result. -/
inductive Session (α : Type) : Type where
  | done (result : α)
  /-- The current generation. -/
  | generation (next : Nat → Session α)
  /-- The container of a name as it is now. -/
  | snapshot (name : String) (next : Except StoreRefusal (Option Snapshot) → Session α)
  /-- Make sure that a container exists. -/
  | create (name : String) (next : Except StoreRefusal Unit → Session α)
  /-- Append a declaration at an expected generation. -/
  | append (name : String) (expected : Nat) (declaration : Declaration)
      (next : Except StoreRefusal Nat → Session α)
  /-- Where a call now stands, if it can be found. -/
  | relocate (call : AdHocCall) (next : Option Span → Session α)
  /-- Whether the session has been cancelled. -/
  | isCancelled (next : Bool → Session α)

/-- Those who answer the requests of a session, with a state that changes from
    one answer to the next. -/
structure Host (σ : Type) where
  generation : σ → Nat × σ
  snapshot : String → σ → Except StoreRefusal (Option Snapshot) × σ
  create : String → σ → Except StoreRefusal Unit × σ
  append : String → Nat → Declaration → σ → Except StoreRefusal Nat × σ
  relocate : AdHocCall → σ → Option Span × σ
  isCancelled : σ → Bool × σ

namespace Session

variable {α β σ : Type}

/-- Go on with another session when the first is done. -/
def bind : Session α → (α → Session β) → Session β
  | .done a, f => f a
  | .generation next, f => .generation fun answer => (next answer).bind f
  | .snapshot name next, f => .snapshot name fun answer => (next answer).bind f
  | .create name next, f => .create name fun answer => (next answer).bind f
  | .append name expected d next, f => .append name expected d fun answer => (next answer).bind f
  | .relocate call next, f => .relocate call fun answer => (next answer).bind f
  | .isCancelled next, f => .isCancelled fun answer => (next answer).bind f

/-- Hold a session with a host, from a state of the host. -/
def run (host : Host σ) : Session α → σ → α × σ
  | .done a, state => (a, state)
  | .generation next, state =>
    let (answer, state) := host.generation state
    (next answer).run host state
  | .snapshot name next, state =>
    let (answer, state) := host.snapshot name state
    (next answer).run host state
  | .create name next, state =>
    let (answer, state) := host.create name state
    (next answer).run host state
  | .append name expected d next, state =>
    let (answer, state) := host.append name expected d state
    (next answer).run host state
  | .relocate call next, state =>
    let (answer, state) := host.relocate call state
    (next answer).run host state
  | .isCancelled next, state =>
    let (answer, state) := host.isCancelled state
    (next answer).run host state

/-- Holding two sessions in a row is holding the first and then the second. -/
theorem run_bind (host : Host σ) (s : Session α) (f : α → Session β) (state : σ) :
    (s.bind f).run host state = (f (s.run host state).1).run host (s.run host state).2 := by
  induction s generalizing state with
  | done => rfl
  | generation next ih => exact ih _ _
  | snapshot name next ih => exact ih _ _
  | create name next ih => exact ih _ _
  | append name expected d next ih => exact ih _ _
  | relocate call next ih => exact ih _ _
  | isCancelled next ih => exact ih _ _

end Session

/-- A store that nobody else uses, and a front end that finds every call where
    it was. -/
def Store.host : Host Store where
  generation s := (s.generation, s)
  snapshot name s := (.ok (s.snapshot? name), s)
  create name s := (.ok (), s.create name)
  append name expected d s := s.append name expected d
  relocate call s := (some call.span, s)
  isCancelled s := (false, s)

end StructuredLog
