/-! # Payload errors — payloads that do not fit their template -/

namespace StructuredLog

/-- Why a payload or a formatter cannot be built. -/
inductive PayloadError where
  /-- More arguments than can be passed by position. -/
  | arityTooLarge (arity limit : Nat)
  /-- A template that does not have one placeholder per argument. -/
  | placeholderMismatch (placeholders arity : Nat)
  /-- A wrong number of values. -/
  | valueCountMismatch (expected actual : Nat)
  deriving DecidableEq, Repr

/-- The text of the error. -/
def PayloadError.message : PayloadError → String
  | .arityTooLarge arity limit =>
    "fast-path formatters take at most " ++ toString limit ++ " arguments, got " ++ toString arity
  | .placeholderMismatch placeholders arity =>
    "template has " ++ toString placeholders ++ " placeholders but " ++ toString arity
      ++ " arguments were declared"
  | .valueCountMismatch expected actual =>
    "expected " ++ toString expected ++ " values, got " ++ toString actual

end StructuredLog
