/-! # UTF-8 — text measured in bytes

    Positions in a template are byte offsets of its UTF-8 encoding.  The
    functions here measure lists of characters; the bytes themselves are
    never built. -/

namespace StructuredLog.Text

/-- The number of bytes that the UTF-8 encoding of the characters takes. -/
def utf8Length : List Char → Nat
  | [] => 0
  | c :: cs => c.utf8Size + utf8Length cs

@[simp] theorem utf8Length_nil : utf8Length [] = 0 := rfl

@[simp] theorem utf8Length_cons (c : Char) (cs : List Char) :
    utf8Length (c :: cs) = c.utf8Size + utf8Length cs := rfl

@[simp] theorem utf8Length_append (as bs : List Char) :
    utf8Length (as ++ bs) = utf8Length as + utf8Length bs := by
  induction as with
  | nil => simp
  | cons a as ih => simp [ih, Nat.add_assoc]

end StructuredLog.Text
