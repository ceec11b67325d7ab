import StructuredLog.Diagnostic.Code
import StructuredLog.Source.Span

/-! # Diagnostics — what is wrong, where, and how to mend it -/

namespace StructuredLog

/-- A place that a diagnostic points at. -/
structure Label where
  span : Span
  text : String
  /-- Primary labels mark the offending code, the others give context. -/
  isPrimary : Bool
  deriving DecidableEq, Repr

/-- One reported problem. -/
structure Diagnostic where
  code : Code
  message : String
  labels : List Label := []
  notes : List String := []
  /-- How to mend the problem, in words. -/
  suggestions : List String := []
  deriving DecidableEq, Repr

namespace Diagnostic

/-- The severity of the diagnostic, which its code decides. -/
def severity (d : Diagnostic) : Severity :=
  d.code.severity

/-- Whether the diagnostic drops its method. -/
def isError (d : Diagnostic) : Bool :=
  d.severity = .error

/-- A diagnostic with one primary label. -/
def labeled (code : Code) (message : String) (span : Span) (text : String)
    (suggestions : List String) : Diagnostic where
  code := code
  message := message
  labels := [⟨span, text, true⟩]
  suggestions := suggestions

/-- The span of the first primary label. -/
def primarySpan? (d : Diagnostic) : Option Span :=
  (d.labels.find? Label.isPrimary).map Label.span

/-- The diagnostic as text: the problem on one line, then a line for each label,
    note and suggestion. -/
def text (d : Diagnostic) : String :=
  let lead (l : Label) := if l.isPrimary then "at" else "see"
  let labels := d.labels.map fun l => "\n  " ++ lead l ++ " " ++ l.span.text ++ ": " ++ l.text
  let notes := d.notes.map ("\n  note: " ++ ·)
  let suggestions := d.suggestions.map ("\n  help: " ++ ·)
  d.severity.name ++ "[" ++ d.code.text ++ "]: " ++ d.message
    ++ String.join (labels ++ notes ++ suggestions)

end Diagnostic

end StructuredLog
