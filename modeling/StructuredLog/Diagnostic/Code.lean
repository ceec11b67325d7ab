import StructuredLog.Text.AsciiCase

/-! # Diagnostic codes — the kinds of problem that can be reported

    Every code has a fixed text, in numeric order.  Its family decides what
    happens to the method that it is reported on: problems of a declaration
    and of the generator itself are errors and drop the method, problems of a
    template are warnings. -/

namespace StructuredLog

/-- The family of a code. -/
inductive CodeFamily where
  /-- The declaration cannot be used. -/
  | declaration
  /-- Reported, and generation goes on. -/
  | template
  /-- Trouble in the generator itself. -/
  | internal
  deriving DecidableEq, Repr

/-- How bad a problem is. -/
inductive Severity where
  /-- The method is dropped. -/
  | error
  /-- Generation goes on. -/
  | warning
  deriving DecidableEq, Repr

/-- The name of the severity in messages. -/
def Severity.name : Severity → String
  | .error => "error"
  | .warning => "warning"

/-- The kinds of problem, in numeric order of their texts. -/
inductive Code where
  | reservedMethodName
  | reservedParameterName
  | notVoid
  | notStatic
  | notPartial
  | hasBody
  | generic
  | noLogger
  | notByValue
  | noLevel
  | unusedArgument
  | unknownPlaceholder
  | exceptionInTemplate
  | levelInTemplate
  | loggerInTemplate
  | levelWordInTemplate
  | unterminatedPlaceholder
  | timestampArgument
  | repeatedEventId
  | internalError
  | errorLimit
  deriving DecidableEq, Repr

namespace Code

/-- Every code in numeric order. -/
def all : List Code :=
  [.reservedMethodName, .reservedParameterName, .notVoid, .notStatic, .notPartial, .hasBody,
   .generic, .noLogger, .notByValue, .noLevel, .unusedArgument, .unknownPlaceholder,
   .exceptionInTemplate, .levelInTemplate, .loggerInTemplate, .levelWordInTemplate,
   .unterminatedPlaceholder, .timestampArgument, .repeatedEventId, .internalError, .errorLimit]

/-- The text of the code. -/
def text : Code → String
  | .reservedMethodName => "E1001"
  | .reservedParameterName => "E1002"
  | .notVoid => "E1003"
  | .notStatic => "E1004"
  | .notPartial => "E1005"
  | .hasBody => "E1006"
  | .generic => "E1007"
  | .noLogger => "E1008"
  | .notByValue => "E1009"
  | .noLevel => "E1010"
  | .unusedArgument => "W2001"
  | .unknownPlaceholder => "W2002"
  | .exceptionInTemplate => "W2003"
  | .levelInTemplate => "W2004"
  | .loggerInTemplate => "W2005"
  | .levelWordInTemplate => "W2006"
  | .unterminatedPlaceholder => "W2007"
  | .timestampArgument => "W2008"
  | .repeatedEventId => "W2009"
  | .internalError => "E9001"
  | .errorLimit => "E9002"

/-- The family of the code. -/
def family : Code → CodeFamily
  | .reservedMethodName | .reservedParameterName | .notVoid | .notStatic | .notPartial
  | .hasBody | .generic | .noLogger | .notByValue | .noLevel => .declaration
  | .unusedArgument | .unknownPlaceholder | .exceptionInTemplate | .levelInTemplate
  | .loggerInTemplate | .levelWordInTemplate | .unterminatedPlaceholder | .timestampArgument
  | .repeatedEventId => .template
  | .internalError | .errorLimit => .internal

/-- Problems of a template are warnings, all others are errors. -/
def severity (code : Code) : Severity :=
  match code.family with
  | .template => .warning
  | .declaration | .internal => .error

/-- The code of a text, in any ASCII case. -/
def ofText? (s : String) : Option Code :=
  all.find? fun code => Text.sameFolded code.text s

/-- The number of codes before this one. -/
def rank (code : Code) : Nat :=
  all.idxOf code

end Code

end StructuredLog
