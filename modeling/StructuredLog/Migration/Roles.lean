import StructuredLog.AdHoc.HostModel
import StructuredLog.Migration.Failure

/-! # Call roles — which argument of an ad-hoc call is which

    The level comes from the method's name or from the first argument.  After
    it an event id and an exception may follow, each recognised by its type;
    then comes the message, which has to be a text known at compile time, and
    then the arguments of the template.  A text constant is never taken for
    anything but the message. -/

namespace StructuredLog

/-- Where the level of a call is. -/
inductive LevelPlace where
  /-- Fixed by the method's name or by a constant argument. -/
  | constant (level : Level)
  /-- The argument at this index. -/
  | argument (index : Nat)
  deriving DecidableEq, Repr

/-- The roles of a call's arguments, by index. -/
structure CallRoles where
  level : LevelPlace
  eventId? : Option Nat
  exception? : Option Nat
  template : String
  templateIndex : Nat
  deriving DecidableEq, Repr

namespace CallRoles

/-- The level, if it is constant. -/
def constantLevel? (roles : CallRoles) : Option Level :=
  match roles.level with
  | .constant level => some level
  | .argument _ => none

/-- The index of the level argument, if the level is not constant. -/
def levelIndex? (roles : CallRoles) : Option Nat :=
  match roles.level with
  | .constant _ => none
  | .argument index => some index

/-- The indices of the template's arguments in a call of `count` arguments. -/
def templateIndices (roles : CallRoles) (count : Nat) : List Nat :=
  List.range' (roles.templateIndex + 1) (count - (roles.templateIndex + 1))

/-- The indices of the arguments that the new call keeps, in order: a level that
    is not constant, the exception, and the template's arguments. -/
def keptIndices (roles : CallRoles) (count : Nat) : List Nat :=
  roles.levelIndex?.toList ++ roles.exception?.toList ++ roles.templateIndices count

end CallRoles

namespace AdHocCall

/-- Whether an argument has a type that is assignable to a known type. -/
def isA (model : HostModel) (known : KnownType) (a : CallArgument) : Except MigrationFailure Bool :=
  if a.textConstant?.isSome then .ok false
  else
    match model.typeOf? a with
    | some type => .ok (model.system.assignable type known)
    | none => .error (.typeUnavailable (.argument a.text))

/-- Where the level of a call is, and the index of the first argument after it. -/
def levelPlace (model : HostModel) (call : AdHocCall) : Except MigrationFailure (LevelPlace × Nat) :=
  if call.method = levelTakingMethod then
    match call.arguments.head? with
    | none => .error (.missingArgument .level)
    | some first =>
      match first.levelConstant? with
      | some level => .ok (.constant level, 1)
      | none => do
        if ← isA model .level first then return (.argument 0, 1)
        else .error (.notALoggingCall call.method)
  else
    match Level.ofAdHocMethod? call.method with
    | some level => .ok (.constant level, 0)
    | none => .error (.notALoggingCall call.method)

/-- The index `next`, if an argument assignable to the known type is there, and
    the index to go on from. -/
def optionalArgument (model : HostModel) (call : AdHocCall) (known : KnownType) (next : Nat) :
    Except MigrationFailure (Option Nat × Nat) :=
  match call.arguments[next]? with
  | none => .ok (none, next)
  | some a => do
    if ← isA model known a then return (some next, next + 1) else return (none, next)

/-- The roles of the arguments of a call. -/
def roles (model : HostModel) (call : AdHocCall) : Except MigrationFailure CallRoles := do
  let (level, afterLevel) ← call.levelPlace model
  let (eventId?, afterEventId) ← call.optionalArgument model .eventId afterLevel
  let (exception?, templateIndex) ← call.optionalArgument model .exception afterEventId
  match call.arguments[templateIndex]? with
  | none => .error (.missingArgument .message)
  | some message =>
    match message.textConstant? with
    | none => .error .nonConstantTemplate
    | some template => return { level, eventId?, exception?, template, templateIndex }

end AdHocCall

end StructuredLog
