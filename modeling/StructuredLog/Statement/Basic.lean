import StructuredLog.FieldLayout
import StructuredLog.Statement.Argument
import StructuredLog.Statement.Options

/-! # Statements — what a sound declaration logs, and with which payload

    A statement is the checked description of one log call.  Its payload takes
    one of two forms.  When the level is constant, the arguments are few, and
    the placeholders are exactly the regular arguments in order, the arguments
    are passed by position to a formatter built once.  In every other case a
    list of named fields is built for each call. -/

namespace StructuredLog

/-- Where the level of a call comes from. -/
inductive LevelSource where
  | constant (level : Level)
  /-- Read at each call from the parameter of this name. -/
  | parameter (name : String)
  deriving DecidableEq, Repr

/-- The level, if it is known before any call. -/
def LevelSource.constant? : LevelSource → Option Level
  | .constant level => some level
  | .parameter _ => none

/-- One intended log call. -/
structure Statement where
  /-- The name of the method. -/
  name : String
  /-- The raw template, also when it is malformed. -/
  template : String
  /-- The names of the placeholders in order. -/
  placeholders : List String
  level : LevelSource
  eventId : Int32
  eventName : String
  skipsEnabledCheck : Bool
  arguments : List Argument
  span : Span
  deriving DecidableEq, Repr

namespace Statement

/-- The arguments that the message is about. -/
def regular (s : Statement) : List Argument :=
  regularArguments s.arguments

/-- The exception argument. -/
def exception? (s : Statement) : Option Argument :=
  firstInRole? s.arguments .exception

/-! ## Passing by position -/

/-- Whether the placeholders are the regular arguments, in order and up to ASCII
    case. -/
def linesUp (s : Statement) : Bool :=
  s.placeholders.length == s.regular.length
    && (s.regular.zip s.placeholders).all fun (a, p) => Text.sameFolded a.name p

/-- The types of the arguments to pass by position, when that is possible. -/
def positionalTypes? (options : GeneratorOptions) (s : Statement) : Option (List TypeName) :=
  if s.regular.length ≤ options.maxPositional && s.level.constant?.isSome && s.linesUp then
    some (s.regular.map Argument.type)
  else none

/-! ## Named fields -/

/-- The name of an argument's field: as the first placeholder spells it that is
    equal up to ASCII case, or else as the argument itself does. -/
def fieldName (s : Statement) (argument : String) : String :=
  (s.placeholders.find? (Text.sameFolded · argument)).getD argument

/-- The field of an argument. -/
def field (system : TypeSystem) (s : Statement) (a : Argument) : ParameterField where
  name := s.fieldName a.name
  parameter := a.name
  type := a.type
  rendering := if system.isSequence a.type then .lazySequence else .plain

/-- The fields of the call: one for each regular argument, in order. -/
def layout (system : TypeSystem) (s : Statement) : FieldLayout where
  parameterFields := s.regular.map (s.field system)
  template := s.template

end Statement

/-- What a call hands to the sink besides level, event and exception. -/
inductive PayloadPlan where
  /-- Arguments of these types by position. -/
  | positional (types : List TypeName)
  /-- Named fields. -/
  | fields (layout : FieldLayout)
  deriving DecidableEq, Repr

/-- The payload of a statement: by position where possible. -/
def Statement.payload (system : TypeSystem) (options : GeneratorOptions) (s : Statement) :
    PayloadPlan :=
  match s.positionalTypes? options with
  | some types => .positional types
  | none => .fields (s.layout system)

end StructuredLog
