import StructuredLog.Template.BraceRun

/-! # Cuts — a template taken apart at its placeholders

    A placeholder starts at the first opening brace that is not an escape and
    ends at the next closing brace that is not one.  Cutting a text at all its
    placeholders loses nothing: each hole keeps the text before it and the text
    between its braces, and what follows the last hole is kept as the rest
    (`chars_cut`).  An opening brace that is never closed ends the search; it
    and everything after it belong to the rest. -/

namespace StructuredLog.Template

/-- A placeholder together with the text since the placeholder before it. -/
structure Hole where
  /-- The text before the opening brace, escapes included. -/
  gap : List Char
  /-- The text between the braces. -/
  inner : List Char
  deriving DecidableEq, Repr

namespace Hole

/-- The placeholder as written, with its braces. -/
def written (h : Hole) : List Char :=
  '{' :: h.inner ++ ['}']

/-- The whole text that the hole takes up. -/
def chars (h : Hole) : List Char :=
  h.gap ++ h.written

/-- Whether the character ends the name of a placeholder and starts its suffix. -/
def isDelimiter (c : Char) : Bool :=
  c == ',' || c == ':'

/-- The text up to the first delimiter. -/
def nameChars (h : Hole) : List Char :=
  h.inner.takeWhile (!isDelimiter ·)

/-- The text from the first delimiter on. -/
def suffixChars (h : Hole) : List Char :=
  h.inner.dropWhile (!isDelimiter ·)

/-- Name and suffix make up the text between the braces. -/
@[simp] theorem nameChars_append_suffixChars (h : Hole) :
    h.nameChars ++ h.suffixChars = h.inner :=
  List.takeWhile_append_dropWhile

end Hole

/-- A text cut at its placeholders. -/
structure Cut where
  holes : List Hole
  /-- The text after the last placeholder. -/
  rest : List Char
  /-- Whether every placeholder that was opened was closed. -/
  terminated : Bool
  deriving DecidableEq, Repr

/-- The text that was cut. -/
def Cut.chars (c : Cut) : List Char :=
  c.holes.flatMap Hole.chars ++ c.rest

/-- Cut a text at its placeholders. -/
def cut (cs : List Char) : Cut :=
  match _hopen : delimitingBrace? .opening '{' cs with
  | none => ⟨[], cs, true⟩
  | some i =>
    let inside := cs.drop (i + 1)
    match delimitingBrace? .closing '}' inside with
    | none => ⟨[], cs, false⟩
    | some j =>
      let later := cut (inside.drop (j + 1))
      { later with holes := ⟨cs.take i, inside.take j⟩ :: later.holes }
termination_by cs.length
decreasing_by
  have := delimitingBrace?_lt _hopen
  simp only [List.length_drop]
  omega

/-- Cutting loses nothing. -/
theorem chars_cut (cs : List Char) : (cut cs).chars = cs := by
  fun_induction cut cs with
  | case1 => rfl
  | case2 => rfl
  | case3 cs i hopen inside j hclose later ih =>
    have hinside : inside = inside.take j ++ '}' :: inside.drop (j + 1) :=
      eq_append_of_delimitingBrace? hclose
    have hcs : cs = cs.take i ++ '{' :: inside := eq_append_of_delimitingBrace? hopen
    calc Cut.chars { later with holes := ⟨cs.take i, inside.take j⟩ :: later.holes }
        = cs.take i ++ ('{' :: inside.take j ++ ['}']) ++ later.chars := by
          simp [Cut.chars, Hole.chars, Hole.written]
      _ = cs.take i ++ '{' :: (inside.take j ++ '}' :: inside.drop (j + 1)) := by
          simp [later, ih]
      _ = cs := by rw [← hinside, ← hcs]

end StructuredLog.Template
