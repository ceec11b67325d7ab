/-! # Host types — what the generator knows about types

    Types of the host language are opaque names.  All that is ever asked about
    one is whether it can be assigned to one of seven known types; what
    answers this is a type system. -/

namespace StructuredLog

/-- The name of a host type as the front end spells it.  Two names are the same
    type exactly when they are spelled alike. -/
abbrev TypeName := String

/-- The types that the generator tells apart. -/
inductive KnownType where
  /-- The handle that a logging method logs through. -/
  | logger
  /-- Exceptions attached to a record. -/
  | exception
  /-- The type of levels. -/
  | level
  /-- Event identifiers accepted by ad-hoc calls. -/
  | eventId
  /-- Calendar timestamps, whose text depends on the host's culture. -/
  | timestamp
  /-- Iterables of any element type. -/
  | enumerable
  /-- Text, which is iterable but shown as a whole. -/
  | string
  deriving DecidableEq, Repr

namespace KnownType

/-- Every known type. -/
def all : List KnownType :=
  [.logger, .exception, .level, .eventId, .timestamp, .enumerable, .string]

/-- The name of a known type in messages. -/
def name : KnownType → String
  | .logger => "Logger"
  | .exception => "Exception"
  | .level => "LogLevel"
  | .eventId => "EventId"
  | .timestamp => "Timestamp"
  | .enumerable => "Enumerable"
  | .string => "String"

end KnownType

/-- Answers whether a type is, or implicitly converts to, a known type. -/
structure TypeSystem where
  assignable : TypeName → KnownType → Bool

namespace TypeSystem

/-- An iterable that is not text is shown element by element. -/
def isSequence (system : TypeSystem) (type : TypeName) : Bool :=
  system.assignable type .enumerable && !system.assignable type .string

end TypeSystem

end StructuredLog
