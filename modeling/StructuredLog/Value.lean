import StructuredLog.Decimal.Shortest

/-! # Values — what a log record carries

    A value is null, a scalar, or a sequence, which may be absent.  A sequence
    is lazy: its text is computed when it is first asked for, and the value
    remembers that it was.  The text itself depends on the elements alone, so
    only this mark is kept.  Asking for the text of a sequence asks for the
    texts of its elements too. -/

namespace StructuredLog

/-- A value of a log record. -/
inductive Value where
  | null
  | bool (b : Bool)
  | int (n : Int)
  | float (x : Decimal.Binary64)
  | text (s : String)
  /-- A sequence that is not there, and whether its text was asked for. -/
  | absent (rendered : Bool)
  /-- A sequence, and whether its text was asked for. -/
  | sequence (rendered : Bool) (items : List Value)
  deriving Repr

namespace Value

/-- The text of what is absent. -/
def nullText : String := "(null)"

/-- The text of a list of elements. -/
def bracketed (texts : List String) : String :=
  "[" ++ ", ".intercalate texts ++ "]"

mutual

/-- The text of a value. -/
def render : Value → String
  | .null => nullText
  | .bool b => if b then "true" else "false"
  | .int n => toString n
  | .float x => x.text
  | .text s => s
  | .absent _ => nullText
  | .sequence _ items => bracketed (renderAll items)

/-- The texts of the values. -/
def renderAll : List Value → List String
  | [] => []
  | v :: vs => v.render :: renderAll vs

end

mutual

/-- The value after its text was asked for: a sequence that was not rendered
    before is, with every sequence in it. -/
def forced : Value → Value
  | .absent _ => .absent true
  | .sequence true items => .sequence true items
  | .sequence false items => .sequence true (forcedAll items)
  | .null => .null
  | .bool b => .bool b
  | .int n => .int n
  | .float x => .float x
  | .text s => .text s

/-- The values after their texts were asked for. -/
def forcedAll : List Value → List Value
  | [] => []
  | v :: vs => v.forced :: forcedAll vs

end

mutual

/-- Equality of values.  The kinds must agree, numbers compare as numbers, and
    sequences by their elements, rendered or not. -/
def same : Value → Value → Bool
  | .null, .null => true
  | .bool a, .bool b => a == b
  | .int m, .int n => m == n
  | .float x, .float y => x.sameNumber y
  | .text s, .text t => s == t
  | .absent _, .absent _ => true
  | .sequence _ xs, .sequence _ ys => sameAll xs ys
  | _, _ => false

/-- Equality of values element by element. -/
def sameAll : List Value → List Value → Bool
  | [], [] => true
  | x :: xs, y :: ys => x.same y && sameAll xs ys
  | _, _ => false

end

/-- Whether the text of a sequence was asked for; nothing for other values. -/
def isRendered? : Value → Option Bool
  | .absent rendered | .sequence rendered _ => some rendered
  | _ => none

/-- Whether the value is null; an absent sequence is not. -/
def isNull : Value → Bool
  | .null => true
  | _ => false

/-- The elements of a sequence that is there. -/
def items? : Value → Option (List Value)
  | .sequence _ items => some items
  | _ => none

/-- The value as a sequence: null is an absent one, and any other value that is
    no sequence is the only element of a new one. -/
def asSequence : Value → Value
  | .null => .absent false
  | .absent rendered => .absent rendered
  | .sequence rendered items => .sequence rendered items
  | .bool b => .sequence false [.bool b]
  | .int n => .sequence false [.int n]
  | .float x => .sequence false [.float x]
  | .text s => .sequence false [.text s]

/-- The value after the text of its element at an index was asked for. -/
def forcedAt (index : Nat) : Value → Value
  | .sequence rendered items => .sequence rendered (items.modify index forced)
  | v => v

theorem renderAll_eq_map (vs : List Value) : renderAll vs = vs.map render := by
  induction vs with
  | nil => rfl
  | cons v vs ih => rw [renderAll, ih, List.map_cons]

theorem forcedAll_eq_map (vs : List Value) : forcedAll vs = vs.map forced := by
  induction vs with
  | nil => rfl
  | cons v vs ih => rw [forcedAll, ih, List.map_cons]

end Value

end StructuredLog
