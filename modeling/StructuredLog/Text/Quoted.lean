import StructuredLog.Text.Extending
import StructuredLog.Text.Ignorable
import StructuredLog.Text.Unprintable

/-! # Quoted — text between double quotes

    The quoted form of a text shows every character that a reader could miss
    as an escape: the quote and the backslash, the usual control characters,
    and, by code point, every character that is drawn on the one before, may
    be drawn as nothing, or has no visible form. -/

namespace StructuredLog.Text

/-- The escape of a character by its code point, such as `\u{301}`. -/
def codePointEscape (c : Char) : List Char :=
  ['\\', 'u', '{'] ++ Nat.toDigits 16 c.toNat ++ ['}']

/-- Whether a reader could miss the character: it is overlaid, ignorable or unprintable. -/
def isEasilyMissed (c : Char) : Bool :=
  isOverlaid c || isIgnorable c || isUnprintable c

/-- The form of one character between double quotes. -/
def quotedChar (c : Char) : List Char :=
  match c with
  | '"' => ['\\', '"']
  | '\\' => ['\\', '\\']
  | '\x00' => ['\\', '0']
  | '\t' => ['\\', 't']
  | '\r' => ['\\', 'r']
  | '\n' => ['\\', 'n']
  | c => if isEasilyMissed c then codePointEscape c else [c]

/-- The text in double quotes, with escapes. -/
def quoted (s : String) : String :=
  String.ofList ('"' :: s.toList.flatMap quotedChar ++ ['"'])

end StructuredLog.Text
