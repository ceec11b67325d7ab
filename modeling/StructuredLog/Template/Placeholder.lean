import StructuredLog.Template.Cut
import StructuredLog.Template.Escape
import StructuredLog.Text.Utf8

/-! # Placeholders and segments — the parts of a template in order

    From the cut of a template come its placeholders, numbered and located by
    byte offsets, and its segments: holes in order, with the unescaped text
    between them.  Reading a template never fails; an unterminated placeholder
    is literal text, and the template is called malformed. -/

namespace StructuredLog.Template

/-- A named place in a template. -/
structure Placeholder where
  name : String
  /-- Its number among the placeholders of the template, from 0. -/
  position : Nat
  /-- The byte offset of its opening brace. -/
  first : Nat
  /-- The byte offset just after its closing brace. -/
  stop : Nat
  /-- The suffix after the name, with its delimiter. -/
  suffix? : Option String
  deriving DecidableEq, Repr

/-- The placeholder with its braces. -/
def Placeholder.written (p : Placeholder) : String :=
  "\x7b" ++ p.name ++ p.suffix?.getD "" ++ "\x7d"

/-- The placeholder of a hole that is the `position`-th of its template and
    whose gap starts at byte `offset`. -/
def Hole.placeholder (h : Hole) (position offset : Nat) : Placeholder where
  name := String.ofList h.nameChars
  position := position
  first := offset + Text.utf8Length h.gap
  stop := offset + Text.utf8Length h.chars
  suffix? := if h.suffixChars.isEmpty then none else some (String.ofList h.suffixChars)

/-- The placeholders of the holes, counted and located from the given start. -/
def placeholdersFrom (position offset : Nat) : List Hole → List Placeholder
  | [] => []
  | h :: later =>
    h.placeholder position offset ::
      placeholdersFrom (position + 1) (offset + Text.utf8Length h.chars) later

/-- The placeholders of a template, in order. -/
def placeholders (template : String) : List Placeholder :=
  placeholdersFrom 0 0 (cut template.toList).holes

/-- The names of the placeholders, repeats included. -/
def names (template : String) : List String :=
  (placeholders template).map Placeholder.name

/-- Whether a placeholder was opened and never closed. -/
def isMalformed (template : String) : Bool :=
  !(cut template.toList).terminated

/-- A piece of a template. -/
inductive Segment where
  /-- Text with its escapes undone. -/
  | literal (text : String)
  | hole (placeholder : Placeholder)
  deriving DecidableEq, Repr

/-- The segment of a literal text; none for an empty one. -/
def literalSegment (cs : List Char) : List Segment :=
  if cs.isEmpty then [] else [.literal (String.ofList (unescape cs))]

/-- The segments of the holes and the rest, counted and located from the given
    start. -/
def segmentsFrom (position offset : Nat) (rest : List Char) : List Hole → List Segment
  | [] => literalSegment rest
  | h :: later =>
    literalSegment h.gap ++ .hole (h.placeholder position offset) ::
      segmentsFrom (position + 1) (offset + Text.utf8Length h.chars) rest later

/-- The pieces of a template, in order. -/
def segments (template : String) : List Segment :=
  let c := cut template.toList
  segmentsFrom 0 0 c.rest c.holes

theorem length_placeholdersFrom (position offset : Nat) (holes : List Hole) :
    (placeholdersFrom position offset holes).length = holes.length := by
  induction holes generalizing position offset with
  | nil => rfl
  | cons h later ih => simp [placeholdersFrom, ih]

end StructuredLog.Template
