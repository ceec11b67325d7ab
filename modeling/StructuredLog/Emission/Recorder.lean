import StructuredLog.Emission.Basic
import StructuredLog.Text.Quoted

/-! # The recorder — a sink that writes down what it is handed

    The recorder enables the levels from a given one up.  Of each record it
    takes, in this order, a description if asked to, the message unless told
    to be quiet, and the payload.  A sequence of the payload counts as
    rendered when the message asked for its text. -/

namespace StructuredLog

/-! ## Descriptions -/

namespace Describe

/-- A structure with named parts. -/
def structured (name : String) (parts : List (String × String)) : String :=
  name ++ " \x7b " ++ ", ".intercalate (parts.map fun (n, t) => n ++ ": " ++ t) ++ " \x7d"

/-- A list. -/
def list (items : List String) : String :=
  "[" ++ ", ".intercalate items ++ "]"

/-- A text that may be missing. -/
def optionalText : Option String → String
  | some s => "Some(" ++ Text.quoted s ++ ")"
  | none => "None"

/-- A value with its kind. -/
def value : Value → String
  | .null => "Null"
  | .bool b => "Bool(" ++ (Value.bool b).render ++ ")"
  | .int n => "Int(" ++ toString n ++ ")"
  | .float x => "Float(" ++ x.text ++ ")"
  | .text s => "Str(" ++ Text.quoted s ++ ")"
  | .absent rendered => "Seq(" ++ (Value.absent rendered).render ++ ")"
  | .sequence rendered items => "Seq(" ++ (Value.sequence rendered items).render ++ ")"

/-- A placeholder of a template. -/
def placeholder (p : Template.Placeholder) : String :=
  structured "Placeholder"
    [("name", Text.quoted p.name), ("position", toString p.position),
     ("range", toString p.first ++ ".." ++ toString p.stop), ("format", optionalText p.suffix?)]

/-- A template with its parts. -/
def template (text : String) : String :=
  let parsed := structured "ParsedTemplate"
    [("placeholders", list ((Template.placeholders text).map placeholder)),
     ("terminated", if Template.isMalformed text then "false" else "true")]
  structured "MessageTemplate" [("text", Text.quoted text), ("parsed", parsed)]

/-- A payload: the fields one by one, arguments by their number. -/
def payload : Payload → String
  | .arguments values => "Args(" ++ toString values.length ++ ")"
  | .fields fields =>
    let shown := structured "StructuredFieldList"
      [("names", list (fields.entries.map fun (n, _) => Text.quoted n)),
       ("values", list (fields.entries.map fun (_, v) => value v)),
       ("template", template fields.template)]
    "Fields(" ++ shown ++ ")"

/-- A record without its message. -/
def record (r : Record) : String :=
  let event := structured "EventId"
    [("id", toString r.event.id.toInt), ("name", Text.quoted r.event.name)]
  "LogRecord \x7b level: " ++ r.level.name ++ ", event: " ++ event ++ ", payload: "
    ++ payload r.payload ++ ", exception: " ++ optionalText r.exception? ++ ", .. \x7d"

end Describe

/-! ## Observations -/

/-- What the recorder reads off a payload. -/
inductive ReadPayload where
  /-- The texts of the arguments. -/
  | arguments (texts : List String)
  /-- Which fields hold a rendered sequence before their texts are read, and the
      names and texts. -/
  | fields (rendered : List (Option Bool)) (texts : List (String × String))
  deriving DecidableEq, Repr

/-- What the recorder writes down of one record. -/
structure Observation where
  record : Record
  description? : Option String
  message? : Option String
  payload : ReadPayload
  deriving Repr

/-- How the recorder takes a record. -/
structure Recorder where
  /-- The least level that is enabled. -/
  leastLevel : Level
  /-- Whether records are described. -/
  describes : Bool := false
  /-- Whether messages are not asked for. -/
  isQuiet : Bool := false
  deriving DecidableEq, Repr

namespace Recorder

/-- The levels that the recorder enables. -/
def enables (recorder : Recorder) (level : Level) : Bool :=
  recorder.leastLevel ≤ level

/-- The payload as the recorder reads it. -/
def readPayload (recorder : Recorder) : Payload → ReadPayload
  | .arguments values => .arguments (values.map Value.render)
  | .fields list =>
    let seen := if recorder.isQuiet then list else list.afterMessage
    .fields (seen.entries.map (·.2.isRendered?)) (seen.entries.map fun (n, v) => (n, v.render))

/-- What the recorder writes down; nothing if the message has no text. -/
def observe (recorder : Recorder) (r : Record) : Except RenderingError Observation := do
  let message? ← if recorder.isQuiet then pure none else r.message.map some
  return {
    record := r
    description? := if recorder.describes then some (Describe.record r) else none
    message?
    payload := recorder.readPayload r.payload }

end Recorder

end StructuredLog
