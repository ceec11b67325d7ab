import StructuredLog.HostType.Basic
import StructuredLog.Level
import StructuredLog.Source.Span

/-! # Declarations — marked logging methods before any check

    A declaration is the raw shape of one method, as the front end found it:
    everything needed to decide whether code can be generated for it.  Nothing
    in it has been checked. -/

namespace StructuredLog

/-- How an argument is passed. -/
inductive PassingMode where
  | value
  | reference
  | output
  | readOnlyReference
  | variadic
  deriving DecidableEq, Repr

/-- The keyword that marks the mode; passing by value has none. -/
def PassingMode.keyword : PassingMode → String
  | .value => ""
  | .reference => "ref"
  | .output => "out"
  | .readOnlyReference => "in"
  | .variadic => "params"

/-- A declared parameter. -/
structure Parameter where
  name : String
  type : TypeName
  mode : PassingMode := .value
  span : Span := .nowhere
  deriving DecidableEq, Repr

/-- What a method returns. -/
inductive ReturnType where
  | void
  | value (type : TypeName)
  deriving DecidableEq, Repr

/-- The mark that makes a method a logging method. -/
structure Marking where
  eventId : Int32
  /-- The level at which the method always logs; without one, a parameter gives
      the level. -/
  level? : Option Level
  /-- The message template. -/
  message : String
  eventName? : Option String := none
  /-- Log without asking whether the level is enabled. -/
  skipsEnabledCheck : Bool := false
  /-- Where the message literal stands. -/
  messageSpan : Span := .nowhere
  deriving DecidableEq, Repr

/-- One marked logging method. -/
structure Declaration where
  name : String
  isStatic : Bool := true
  /-- Declared as a stub whose body is to be generated. -/
  isPartial : Bool := true
  returns : ReturnType := .void
  genericArity : Nat := 0
  hasBody : Bool := false
  parameters : List Parameter
  marking : Marking
  span : Span := .nowhere
  deriving DecidableEq, Repr

namespace Declaration

/-- The name of the event: the given one, or else the name of the method. -/
def eventName (d : Declaration) : String :=
  d.marking.eventName?.getD d.name

end Declaration

end StructuredLog
