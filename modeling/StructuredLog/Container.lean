import StructuredLog.Declaration

/-! # Containers — groups that own logging methods

    A container is the namespace of method names and event ids.  Of each method
    it keeps the signature: the name, the event id, and the shape, which is
    what makes two methods interchangeable.  A container only grows. -/

namespace StructuredLog

/-- What two methods must share to log the same thing. -/
structure Shape where
  /-- The types of all parameters in order, the logger's first. -/
  types : List TypeName
  /-- The constant level, if the level is not a parameter. -/
  level? : Option Level
  template : String
  deriving DecidableEq, Repr

/-- The identity of a method within its container. -/
structure Signature where
  name : String
  shape : Shape
  eventId : Int32
  deriving DecidableEq, Repr

namespace Declaration

/-- The shape of a declared method. -/
def shape (d : Declaration) : Shape where
  types := d.parameters.map Parameter.type
  level? := d.marking.level?
  template := d.marking.message

/-- The signature of a declared method. -/
def signature (d : Declaration) : Signature where
  name := d.name
  shape := d.shape
  eventId := d.marking.eventId

end Declaration

/-- A named group of methods. -/
structure Container where
  name : String
  methods : List Signature := []
  deriving DecidableEq, Repr, Inhabited

namespace Container

/-- The container of the declared methods. -/
def ofDeclarations (name : String) (declarations : List Declaration) : Container where
  name := name
  methods := declarations.map Declaration.signature

/-- The container with one more method at its end. -/
def push (c : Container) (method : Signature) : Container :=
  { c with methods := c.methods ++ [method] }

/-- The methods of a name; overloads share one. -/
def named (c : Container) (name : String) : List Signature :=
  c.methods.filter (·.name == name)

/-- The greatest event id in use. -/
def maxEventId? (c : Container) : Option Int32 :=
  (c.methods.map Signature.eventId).max?

/-- The greatest event id there is. -/
def lastEventId : Int32 := 2147483647

/-- A free event id, not below `base`: `base` in an empty container, and one
    above the greatest in use otherwise.  There is none once the last event id
    is taken. -/
def nextEventId? (c : Container) (base : Int32) : Option Int32 :=
  match c.maxEventId? with
  | none => some base
  | some greatest => if greatest = lastEventId then none else some (max (greatest + 1) base)

@[simp] theorem ofDeclarations_nil (name : String) :
    ofDeclarations name [] = { name } := rfl

theorem push_ofDeclarations (name : String) (ds : List Declaration) (d : Declaration) :
    (ofDeclarations name ds).push d.signature = ofDeclarations name (ds ++ [d]) := by
  simp [push, ofDeclarations]

end Container

end StructuredLog
