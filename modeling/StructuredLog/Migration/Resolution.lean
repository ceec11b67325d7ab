import StructuredLog.Container

/-! # Resolution — finding or naming the method for a call

    A call wants a method of a certain shape under a name derived from its
    template.  The names `Base`, `Base2`, `Base3`, … are tried in order.  The
    first one that has a method of that shape is reused; the first one that
    has no method at all is minted with a free event id.  A name that has only
    methods of other shapes is passed over. -/

namespace StructuredLog

/-- The method that a call wants. -/
structure WantedMethod where
  /-- The name to start from. -/
  baseName : String
  shape : Shape
  deriving DecidableEq, Repr

/-- The method that a call gets. -/
structure Resolution where
  name : String
  /-- Whether the method exists already. -/
  isReused : Bool
  eventId : Int32
  deriving DecidableEq, Repr

/-- The `n`-th name to try, from 1. -/
def WantedMethod.nthName (wanted : WantedMethod) (n : Nat) : String :=
  if n ≤ 1 then wanted.baseName else wanted.baseName ++ toString n

namespace Container

/-- The first method of a name that has a shape. -/
def ofShape? (c : Container) (name : String) (shape : Shape) : Option Signature :=
  (c.named name).find? (·.shape == shape)

/-- The name to settle on from the `n`-th on, among `tries` names, with the
    method to reuse; the name after them if all have methods of other shapes. -/
def settleFrom (c : Container) (wanted : WantedMethod) : (tries n : Nat) →
    String × Option Signature
  | 0, n => (wanted.nthName n, none)
  | tries + 1, n =>
    let name := wanted.nthName n
    match c.ofShape? name wanted.shape with
    | some method => (name, some method)
    | none => if (c.named name).isEmpty then (name, none) else settleFrom c wanted tries (n + 1)

/-- The name to settle on, with the method to reuse.  Distinct tries have
    distinct names, so once as many names as there are methods have been passed
    over, the next one has no method. -/
def settle (c : Container) (wanted : WantedMethod) : String × Option Signature :=
  c.settleFrom wanted c.methods.length 1

/-- The method that is wanted, found or named; none when a new one has no event
    id left. -/
def methodFor? (c : Container) (wanted : WantedMethod) (firstEventId : Int32) : Option Resolution :=
  match c.settle wanted with
  | (name, some method) => some ⟨name, true, method.eventId⟩
  | (name, none) => (c.nextEventId? firstEventId).map (⟨name, false, ·⟩)

end Container

end StructuredLog
