import StructuredLog.Template.Placeholder
import StructuredLog.Text.Blank

/-! # Alignment — padding the text in a hole

    A suffix `,N` asks for at least `|N|` characters: spaces go before the
    value's text when `N` is positive and after it when `N` is negative.  The
    number may have a sign and blanks around it, and ends at the next colon.
    Anything else, and every `N` of a million or more in size, asks for
    nothing.  A width above 65535 is asked for but cannot be served. -/

namespace StructuredLog.Template

/-- The number that a nonempty list of decimal digits writes. -/
def readNatural? (cs : List Char) : Option Nat :=
  if !cs.isEmpty && cs.all Char.isDigit then
    some (cs.foldl (fun n c => 10 * n + (c.toNat - '0'.toNat)) 0)
  else none

/-- The number that decimal digits after at most one sign write. -/
def readInteger? : List Char → Option Int
  | '-' :: digits => (readNatural? digits).map fun n => -(n : Int)
  | '+' :: digits => (readNatural? digits).map Int.ofNat
  | digits => (readNatural? digits).map Int.ofNat

/-- Widths of this size and above are no alignment. -/
def alignmentLimit : Nat := 1000000

/-- The greatest width that can be served. -/
def maxWidth : Nat := 65535

namespace Placeholder

/-- The alignment that the suffix of the placeholder asks for. -/
def alignment? (p : Placeholder) : Option Int :=
  match p.suffix?.map String.toList with
  | some (',' :: after) =>
    (readInteger? (Text.trim (after.takeWhile (· ≠ ':')))).filter (·.natAbs < alignmentLimit)
  | _ => none

/-- Whether the placeholder asks for a width that cannot be served. -/
def isTooWide (p : Placeholder) : Bool :=
  p.alignment?.any (maxWidth < ·.natAbs)

end Placeholder

/-- The text with spaces up to the alignment's width, before it for a positive
    alignment and after it for a negative one. -/
def pad (alignment : Int) (text : String) : String :=
  let spaces := String.ofList (List.replicate (alignment.natAbs - text.length) ' ')
  if alignment < 0 then text ++ spaces else spaces ++ text

/-- The text of a value as it stands in the placeholder's place. -/
def Placeholder.fit (p : Placeholder) (text : String) : String :=
  match p.alignment? with
  | some alignment => pad alignment text
  | none => text

end StructuredLog.Template
