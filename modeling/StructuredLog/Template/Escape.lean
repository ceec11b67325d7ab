/-! # Escapes — doubled braces in literal text

    Literal text writes a brace twice.  Undoing the escapes first halves the
    opening braces, pair by pair from the left, and then the closing ones. -/

namespace StructuredLog.Template

/-- Replace each pair of adjacent `b`, taken from the left, by one `b`. -/
def mergePairs (b : Char) : List Char → List Char
  | x :: y :: rest =>
    if x = b ∧ y = b then b :: mergePairs b rest else x :: mergePairs b (y :: rest)
  | short => short

/-- Literal text with its doubled braces written once. -/
def unescape (cs : List Char) : List Char :=
  mergePairs '}' (mergePairs '{' cs)

end StructuredLog.Template
