import StructuredLog.Source.Span

/-! # Edits — replacing a piece of source text -/

namespace StructuredLog

/-- The replacement of the text at a span. -/
structure Edit where
  span : Span
  replacement : String
  deriving DecidableEq, Repr

end StructuredLog
