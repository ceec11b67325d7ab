/-! # ASCII case — comparing names without regard to case

    Names are compared either exactly or after folding the letters `A` to `Z`
    to lower case.  Folding leaves every other character alone, so `É` and `é`
    stay different. -/

namespace StructuredLog.Text

/-- The characters of the text with `A` to `Z` in lower case. -/
def folded (s : String) : List Char :=
  s.toList.map Char.toLower

/-- Whether two texts are equal up to the case of ASCII letters. -/
def sameFolded (a b : String) : Bool :=
  folded a == folded b

/-- Whether `word` stands at the start of `cs`, up to the case of ASCII letters. -/
def startsFolded (word : String) (cs : List Char) : Bool :=
  (folded word).isPrefixOf (cs.map Char.toLower)

theorem sameFolded_iff {a b : String} : sameFolded a b = true ↔ folded a = folded b := by
  simp [sameFolded]

@[simp] theorem sameFolded_self (a : String) : sameFolded a a = true := by
  simp [sameFolded]

theorem sameFolded_comm (a b : String) : sameFolded a b = sameFolded b a := by
  rw [Bool.eq_iff_iff, sameFolded_iff, sameFolded_iff, eq_comm]

/-- Texts that are equal up to case are equal up to case to the same texts. -/
theorem sameFolded_congr {a b : String} (h : sameFolded a b = true) (c : String) :
    sameFolded c a = sameFolded c b := by
  rw [sameFolded, sameFolded, sameFolded_iff.mp h]

end StructuredLog.Text
