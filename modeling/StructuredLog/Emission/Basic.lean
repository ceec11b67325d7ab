import StructuredLog.Level
import StructuredLog.Message.FieldList
import StructuredLog.Message.Formatter

/-! # Emission — handing a record to a sink

    A call first finds out whether it is to be logged: never at the level
    `off`, otherwise always when it skips the check, otherwise as the sink
    answers.  Only then is a payload built, and only if that succeeds is the
    sink handed a record.  An emission is a value that says all this: what the
    sink was asked, what was built, what record it was handed, and what the
    caller gets back. -/

namespace StructuredLog

/-- The identity of an event. -/
structure Event where
  id : Int32
  name : String
  deriving DecidableEq, Repr

/-- What a call says apart from its payload. -/
structure CallSite where
  level : Level
  event : Event
  /-- The text of the attached exception. -/
  exception? : Option String := none
  skipsEnabledCheck : Bool := false
  deriving DecidableEq, Repr

/-- The values of a record. -/
inductive Payload where
  | fields (list : FieldList)
  | arguments (values : List Value)
  deriving Repr

/-- What a sink is handed. -/
structure Record where
  level : Level
  event : Event
  payload : Payload
  exception? : Option String
  /-- The message, should the sink ask for it. -/
  message : Rendering
  deriving Repr

/-- The course of one call. -/
structure Emission where
  /-- Whether the sink was asked if the level is enabled. -/
  asked : Bool
  /-- Whether something was built: the field list, or the formatter of a cell
      that had none yet. -/
  built : Bool
  /-- The record that the sink was handed. -/
  record? : Option Record
  /-- Whether the sink was handed a record, or why the payload failed. -/
  result : Except PayloadError Bool
  deriving Repr

namespace CallSite

/-- Whether the call asks the sink. -/
def asks (site : CallSite) : Bool :=
  site.level ≠ .off && !site.skipsEnabledCheck

/-- Whether the call is to be logged by a sink that enables the given levels. -/
def isLogged (enabled : Level → Bool) (site : CallSite) : Bool :=
  site.level ≠ .off && (site.skipsEnabledCheck || enabled site.level)

/-- The record of the call with a payload. -/
def record (site : CallSite) (payload : Payload) (message : Rendering) : Record where
  level := site.level
  event := site.event
  payload := payload
  exception? := site.exception?
  message := message

/-- The course of a call that is not logged. -/
def silent (site : CallSite) : Emission where
  asked := site.asks
  built := false
  record? := none
  result := .ok false

/-- The course of a call that is to be logged and whose record is given, or
    whose payload failed. -/
def handOver (site : CallSite) (built : Bool) (outcome : Except PayloadError Record) :
    Emission where
  asked := site.asks
  built := built
  record? := outcome.toOption
  result := outcome.map fun _ => true

/-- The record of a call with a field list. -/
def fieldsRecord (site : CallSite) (list : FieldList) : Record :=
  site.record (.fields list) list.message

/-- The record of a call with arguments for a formatter. -/
def argumentsRecord (site : CallSite) (formatter : Formatter) (values : List Value) :
    Except PayloadError Record :=
  (formatter.format values).map (site.record (.arguments values))

/-- Log a field list, which is built on demand. -/
def emitFields (enabled : Level → Bool) (site : CallSite) (build : Except PayloadError FieldList) :
    Emission :=
  if site.isLogged enabled then site.handOver true (build.map site.fieldsRecord) else site.silent

/-- Log arguments by position, with the formatter of a cell; also the cell
    afterwards. -/
def emitArguments (enabled : Level → Bool) (site : CallSite) (cell : LazyFormatter)
    (values : List Value) : Emission × LazyFormatter :=
  if site.isLogged enabled then
    (site.handOver (!cell.isInitialized) (cell.formatter.bind (site.argumentsRecord · values)),
      cell.initialized)
  else (site.silent, cell)

end CallSite

end StructuredLog
