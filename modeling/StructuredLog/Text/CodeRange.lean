/-! # Code ranges — classes of characters as tables

    A character class of the Unicode standard is kept as a list of inclusive
    ranges of code points, in ascending order.  A character belongs to the
    class when some range holds its code point. -/

namespace StructuredLog.Text

/-- An inclusive range of code points, as its first and last member. -/
abbrev CodeRange := Nat × Nat

namespace CodeRange

/-- Whether the code point lies in the range. -/
def holds (r : CodeRange) (n : Nat) : Bool :=
  r.1 ≤ n && n ≤ r.2

/-- A range holds exactly the code points between its ends. -/
theorem holds_iff {r : CodeRange} {n : Nat} : r.holds n = true ↔ r.1 ≤ n ∧ n ≤ r.2 := by
  simp [holds]

end CodeRange

/-- Whether some range of the table holds the character's code point. -/
def inTable (table : List CodeRange) (c : Char) : Bool :=
  table.any (CodeRange.holds · c.toNat)

/-- A range of the table that holds the code point puts the character in the class. -/
theorem inTable_of_mem {table : List CodeRange} {r : CodeRange} {c : Char}
    (hr : r ∈ table) (hc : r.1 ≤ c.toNat ∧ c.toNat ≤ r.2) : inTable table c = true :=
  List.any_eq_true.mpr ⟨r, hr, CodeRange.holds_iff.mpr hc⟩

end StructuredLog.Text
