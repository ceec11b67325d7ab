import StructuredLog.Text.Alphabetic
import StructuredLog.Text.Numeric
import StructuredLog.Text.Uppercase

/-! # Identifiers — names for generated members

    A name starts with a letter or an underscore and goes on with letters,
    numerals and underscores.  The name of a method is derived from the
    characters of its template: letters and numerals are kept, and a letter
    that starts the text or follows a dropped character is upper-cased.
    Placeholders are not looked for, so malformed templates have names too. -/

namespace StructuredLog.Identifier

/-- Whether a character may start an identifier. -/
def isStart (c : Char) : Bool :=
  Text.isAlphabetic c || c == '_'

/-- Whether a character may go on an identifier. -/
def isContinue (c : Char) : Bool :=
  Text.isAlphabetic c || Text.isNumeric c || c == '_'

/-- Whether a text is an identifier. -/
def isIdentifier (name : String) : Bool :=
  match name.toList with
  | [] => false
  | c :: cs => isStart c && cs.all isContinue

/-- Whether a name starts with the character that generated members reserve. -/
def startsReserved (reservedInitial : Char) (name : String) : Bool :=
  name.toList.head? == some reservedInitial

/-- What is kept of the characters, given whether something was kept before them
    and whether a letter would start a new word.  Numerals before the first
    letter are dropped, and do not start a new word. -/
def derivedChars (hasStarted atBoundary : Bool) : List Char → List Char
  | [] => []
  | c :: cs =>
    if Text.isAlphabetic c then
      (if atBoundary then Text.uppercase c else [c]) ++ derivedChars true false cs
    else if Text.isNumeric c then
      if hasStarted then c :: derivedChars true false cs else derivedChars false atBoundary cs
    else derivedChars hasStarted true cs

/-- The name of a method whose template has no letters. -/
def fallbackName : String := "LogMessage"

/-- The name of a method, from its template. -/
def derive (template : String) : String :=
  match derivedChars false true template.toList with
  | [] => fallbackName
  | cs => String.ofList cs

end StructuredLog.Identifier
