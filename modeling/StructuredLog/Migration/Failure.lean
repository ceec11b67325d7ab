import StructuredLog.HostType.Basic
import StructuredLog.Store.Basic

/-! # Migration failures — why a call is left as it is -/

namespace StructuredLog

/-- An argument that every ad-hoc call must have. -/
inductive NeededArgument where
  | level
  | message
  deriving DecidableEq, Repr

/-- The name of the argument in messages. -/
def NeededArgument.name : NeededArgument → String
  | .level => "level"
  | .message => "message"

/-- What no type is known of. -/
inductive TypeSubject where
  /-- The argument with this source text. -/
  | argument (text : String)
  | known (type : KnownType)
  deriving DecidableEq, Repr

/-- The subject in messages. -/
def TypeSubject.name : TypeSubject → String
  | .argument text => "argument `" ++ text ++ "`"
  | .known type => "well-known type " ++ type.name

/-- Why a call is not migrated. -/
inductive MigrationFailure where
  | notALoggingCall (method : String)
  | missingArgument (argument : NeededArgument)
  | nonConstantTemplate
  | typeUnavailable (subject : TypeSubject)
  /-- The call was not found again after the container was looked at. -/
  | syntaxLost
  | nonMonotonic (before after : Nat)
  | eventIdsExhausted (container : String)
  | retryBudgetExhausted (container : String) (attempts : Nat)
  | store (error : StoreRefusal)
  deriving DecidableEq, Repr

/-- The text of the error. -/
def MigrationFailure.message : MigrationFailure → String
  | .notALoggingCall method => "`" ++ method ++ "` is not a recognized logging call"
  | .missingArgument argument => "logging call is missing its " ++ argument.name ++ " argument"
  | .nonConstantTemplate => "message template is not a compile-time string constant"
  | .typeUnavailable subject => "type information unavailable for " ++ subject.name
  | .syntaxLost => "call site could not be located after editing the container"
  | .nonMonotonic before after =>
    "container store generation went backwards (" ++ toString before ++ " -> " ++ toString after ++ ")"
  | .eventIdsExhausted container =>
    "container `" ++ container ++ "` has used every event id up to i32::MAX"
  | .retryBudgetExhausted container attempts =>
    "container `" ++ container ++ "` kept changing; gave up after " ++ toString attempts ++ " attempts"
  | .store error => error.message

end StructuredLog
