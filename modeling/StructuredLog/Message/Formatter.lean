import StructuredLog.Message.PayloadError
import StructuredLog.Message.Rendering
import StructuredLog.Value

/-! # Formatters — filling holes by position

    A formatter is a template with few enough placeholders, one per argument;
    argument `i` fills placeholder `i`.  A cell builds the formatter of one
    call site when it is first needed. -/

namespace StructuredLog

/-- The greatest number of arguments of a formatter. -/
def maxFormatterArity : Nat := 6

/-- A template that arguments fill by position. -/
structure Formatter where
  template : String
  length_le : (Template.placeholders template).length ≤ maxFormatterArity

namespace Formatter

/-- The number of arguments. -/
def arity (f : Formatter) : Nat :=
  (Template.placeholders f.template).length

/-- The formatter of a template for a number of arguments. -/
def ofTemplate (template : String) (arity : Nat) : Except PayloadError Formatter :=
  if harity : arity ≤ maxFormatterArity then
    if hcount : (Template.placeholders template).length = arity then
      .ok ⟨template, hcount ▸ harity⟩
    else .error (.placeholderMismatch (Template.placeholders template).length arity)
  else .error (.arityTooLarge arity maxFormatterArity)

/-- The message of the template filled with the arguments. -/
def format (f : Formatter) (arguments : List Value) : Except PayloadError Rendering :=
  if arguments.length = f.arity then
    .ok (renderSegments (fun p => arguments[p.position]?.map Value.render)
      (Template.segments f.template))
  else .error (.valueCountMismatch f.arity arguments.length)

end Formatter

/-- The formatter of one call site, built when first needed. -/
structure LazyFormatter where
  template : String
  arity : Nat
  /-- Whether the formatter was built. -/
  isInitialized : Bool := false
  deriving DecidableEq, Repr

namespace LazyFormatter

/-- The formatter of the cell, or why it has none. -/
def formatter (cell : LazyFormatter) : Except PayloadError Formatter :=
  Formatter.ofTemplate cell.template cell.arity

/-- The cell after its formatter was asked for. -/
def initialized (cell : LazyFormatter) : LazyFormatter :=
  { cell with isInitialized := true }

end LazyFormatter

end StructuredLog
