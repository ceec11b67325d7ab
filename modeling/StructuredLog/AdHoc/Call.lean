import StructuredLog.HostType.Basic
import StructuredLog.Level
import StructuredLog.Source.Span
import StructuredLog.Text.Quoted

/-! # Ad-hoc calls — log calls that format their template each time

    An ad-hoc call names its level by its method, as in
    `LogDebug([eventId], [exception], message, args...)`, or passes it, as in
    `Log(level, [eventId], [exception], message, args...)`. -/

namespace StructuredLog

/-- A value that an argument is known to have. -/
inductive Constant where
  | text (s : String)
  | level (l : Level)
  deriving DecidableEq, Repr

/-- An argument of a call. -/
structure CallArgument where
  /-- The source text. -/
  text : String
  /-- The static type, if the front end knows it. -/
  type? : Option TypeName
  constant? : Option Constant := none
  span : Span := .nowhere
  deriving DecidableEq, Repr

namespace CallArgument

/-- A string literal. -/
def ofText (s : String) : CallArgument where
  text := Text.quoted s
  type? := some "string"
  constant? := some (.text s)

/-- A constant level. -/
def ofLevel (l : Level) : CallArgument where
  text := "LogLevel." ++ l.name
  type? := some "LogLevel"
  constant? := some (.level l)

/-- The text that the argument is known to be. -/
def textConstant? (a : CallArgument) : Option String :=
  match a.constant? with
  | some (.text s) => some s
  | _ => none

/-- The level that the argument is known to be. -/
def levelConstant? (a : CallArgument) : Option Level :=
  match a.constant? with
  | some (.level l) => some l
  | _ => none

end CallArgument

/-- An ad-hoc log call. -/
structure AdHocCall where
  method : String
  /-- The expression that the method is invoked on. -/
  receiver : CallArgument
  arguments : List CallArgument
  /-- The whole call. -/
  span : Span := .nowhere
  deriving DecidableEq, Repr

/-- The method whose first argument is the level. -/
def AdHocCall.levelTakingMethod : String := "Log"

end StructuredLog
