import StructuredLog.HostType.Basic

/-! # Type facts — a type system from a list of facts

    A table records which names stand for, or convert to, which known types,
    and one canonical name for each known type.  Facts are only added; a later
    canonical name takes the place of an earlier one, whose fact stays. -/

namespace StructuredLog

/-- Facts about host types. -/
structure TypeFacts where
  /-- The recorded assignments. -/
  facts : List (TypeName × KnownType) := []
  /-- The canonical names, the latest first. -/
  names : List (KnownType × TypeName) := []
  deriving Repr

namespace TypeFacts

/-- The table without any fact. -/
def empty : TypeFacts := {}

/-- Record that a type is, or converts to, a known type. -/
def register (table : TypeFacts) (type : TypeName) (known : KnownType) : TypeFacts :=
  { table with facts := (type, known) :: table.facts }

/-- Make `type` the canonical name of a known type. -/
def define (table : TypeFacts) (known : KnownType) (type : TypeName) : TypeFacts :=
  { table with names := (known, type) :: table.names }.register type known

/-- The canonical name of a known type. -/
def canonical? (table : TypeFacts) (known : KnownType) : Option TypeName :=
  table.names.lookup known

/-- Whether the table records the assignment. -/
def isAssignable (table : TypeFacts) (type : TypeName) (known : KnownType) : Bool :=
  table.facts.contains (type, known)

/-- The type system that answers from the table. -/
def system (table : TypeFacts) : TypeSystem where
  assignable := table.isAssignable

/-- The known types that a type is assignable to. -/
def kinds (table : TypeFacts) (type : TypeName) : List KnownType :=
  KnownType.all.filter (table.isAssignable type)

/-- The conventional names of the known types; text is iterable, and there is a
    second timestamp type. -/
def conventional : TypeFacts :=
  empty
    |>.define .logger "ILogger"
    |>.define .exception "Exception"
    |>.define .level "LogLevel"
    |>.define .eventId "EventId"
    |>.define .timestamp "DateTime"
    |>.define .enumerable "IEnumerable"
    |>.define .string "string"
    |>.register "string" .enumerable
    |>.register "DateTimeOffset" .timestamp

/-- Recording a fact adds that fact and nothing else. -/
@[simp] theorem isAssignable_register (table : TypeFacts) (type other : TypeName)
    (known target : KnownType) :
    (table.register type known).isAssignable other target
      = ((other, target) == (type, known) || table.isAssignable other target) :=
  List.contains_cons

/-- A canonical name is assignable to its known type. -/
@[simp] theorem isAssignable_define (table : TypeFacts) (type other : TypeName)
    (known target : KnownType) :
    (table.define known type).isAssignable other target
      = ((other, target) == (type, known) || table.isAssignable other target) :=
  List.contains_cons

end TypeFacts

end StructuredLog
