import StructuredLog.Text.Alphabetic
import StructuredLog.Text.Uppercase

/-! # Uppercase — what the upper case of a letter is made of

    The upper case of a letter starts with a letter
    (`exists_isAlphabetic_uppercase`).  What follows it, when there is more, is
    made of letters too, but for the `markedLetters`: these have no capital of
    their own, and are upper-cased to a base letter with combining marks
    (`forall_isAlphabetic_uppercase`, `exists_mark_uppercase`).

    The tables are compared range by range: a run of mappings moves a whole
    interval of code points, so it is enough to find the range that holds the
    interval of its images. -/

namespace StructuredLog.Text

variable {table : List CodeRange} {c : Char} {n first last code : Nat}

/-! ## The mapping, case by case -/

theorem CaseRun.image?_bounds {r : CaseRun} {n code : Nat} (h : r.image? n = some code) :
    r.target ≤ code ∧ code ≤ r.target + (r.last - r.first) := by
  rw [image?] at h
  by_cases hrun : r.first ≤ n ∧ n ≤ r.last ∧ (n - r.first) % r.step = 0
  · rw [if_pos hrun] at h
    obtain rfl := Option.some.inj h
    omega
  · rw [if_neg hrun] at h
    exact nomatch h

/-- A character expands, or one of the runs has it, or it stays as it is. -/
theorem uppercase_cases (c : Char) :
    (∃ codes, (c.toNat, codes) ∈ uppercaseExpansions ∧ uppercase c = codes.map Char.ofNat) ∨
    (∃ run ∈ uppercaseRuns, ∃ code, (CaseRun.ofQuad run).image? c.toNat = some code ∧
      uppercase c = [Char.ofNat code]) ∨
    uppercase c = [c] := by
  rw [uppercase]
  cases hexpansion : uppercaseExpansions.lookup c.toNat with
  | some codes =>
      obtain ⟨before, after, htable, -⟩ := List.lookup_eq_some_iff.mp hexpansion
      have hmem : (c.toNat, codes) ∈ uppercaseExpansions := by
        rw [htable]
        exact List.mem_append_right _ List.mem_cons_self
      exact .inl ⟨codes, hmem, rfl⟩
  | none =>
      cases hrun : uppercaseRuns.findSome? fun r => (CaseRun.ofQuad r).image? c.toNat with
      | some code =>
          obtain ⟨r, hr, himage⟩ := List.exists_of_findSome?_eq_some hrun
          exact .inr (.inl ⟨r, hr, code, himage, rfl⟩)
      | none => exact .inr (.inr rfl)

/-! ## Intervals of letters -/

/-- Whether one range of the table holds all code points from `first` to `last`. -/
def holdsAll (table : List CodeRange) (first last : Nat) : Bool :=
  table.any fun r => r.1.ble first && last.ble r.2

theorem any_holds_of_holdsAll (h : holdsAll table first last = true) (hfirst : first ≤ n)
    (hlast : n ≤ last) : table.any (CodeRange.holds · n) = true := by
  obtain ⟨r, hr, hends⟩ := List.any_eq_true.mp h
  rw [Bool.and_eq_true, Nat.ble_eq, Nat.ble_eq] at hends
  exact List.any_eq_true.mpr
    ⟨r, hr, CodeRange.holds_iff.mpr ⟨Nat.le_trans hends.1 hfirst, Nat.le_trans hlast hends.2⟩⟩

/-- No letter is a surrogate, or above the last code point. -/
theorem alphabeticRanges_valid :
    ∀ r ∈ alphabeticRanges, r.2 < 0xD800 ∨ 0xDFFF < r.1 ∧ r.2 < 0x110000 := by
  decide +kernel

theorem isAlphabetic_ofNat (h : alphabeticRanges.any (CodeRange.holds · n) = true) :
    isAlphabetic (Char.ofNat n) = true := by
  obtain ⟨r, hr, hholds⟩ := List.any_eq_true.mp h
  obtain ⟨hlow, hhigh⟩ := CodeRange.holds_iff.mp hholds
  have hvalid : n.isValidChar := by
    rcases alphabeticRanges_valid r hr with hend | ⟨hstart, hend⟩
    · exact .inl (Nat.lt_of_le_of_lt hhigh hend)
    · exact .inr ⟨Nat.lt_of_lt_of_le hstart hlow, Nat.lt_of_le_of_lt hhigh hend⟩
  have hn : (Char.ofNat n).toNat = n := by
    rw [Char.ofNat, dif_pos hvalid]
    rfl
  exact inTable_of_mem hr (hn.symm ▸ ⟨hlow, hhigh⟩)

theorem isAlphabetic_ofNat_of_holdsAll (h : holdsAll alphabeticRanges code code = true) :
    isAlphabetic (Char.ofNat code) = true :=
  isAlphabetic_ofNat (any_holds_of_holdsAll h (Nat.le_refl code) (Nat.le_refl code))

/-! ## Letters with one capital -/

/-- Whether the table holds the images of a run: one of its ranges holds the
    whole interval of them, or they are there one by one. -/
def CaseRun.imagesIn (r : CaseRun) (table : List CodeRange) : Bool :=
  holdsAll table r.target (r.target + (r.last - r.first)) ||
    (List.range ((r.last - r.first) / r.step + 1)).all fun k =>
      table.any (CodeRange.holds · (r.target + r.step * k))

/-- A table that holds the images of a run holds each single one. -/
theorem CaseRun.any_holds_of_image? {r : CaseRun} (htable : r.imagesIn table = true)
    (h : r.image? n = some code) : table.any (CodeRange.holds · code) = true := by
  rcases (Bool.or_eq_true ..).mp htable with hall | hsteps
  · obtain ⟨hlow, hhigh⟩ := image?_bounds h
    exact any_holds_of_holdsAll hall hlow hhigh
  · rw [image?] at h
    by_cases hrun : r.first ≤ n ∧ n ≤ r.last ∧ (n - r.first) % r.step = 0
    · rw [if_pos hrun] at h
      obtain rfl := Option.some.inj h
      obtain ⟨-, hlast, hstep⟩ := hrun
      have hk : (n - r.first) / r.step < (r.last - r.first) / r.step + 1 :=
        Nat.lt_succ_of_le (Nat.div_le_div_right (Nat.sub_le_sub_right hlast r.first))
      have hmul : r.step * ((n - r.first) / r.step) = n - r.first :=
        Nat.mul_div_cancel' (Nat.dvd_of_mod_eq_zero hstep)
      have hholds := List.all_eq_true.mp hsteps _ (List.mem_range.mpr hk)
      rwa [hmul] at hholds
    · rw [if_neg hrun] at h
      exact nomatch h

theorem letters_in_runs :
    ∀ run ∈ uppercaseRuns, (CaseRun.ofQuad run).imagesIn alphabeticRanges = true := by
  decide +kernel

/-! ## Letters with several -/

/-- The letters without a capital of their own: the j with a caron, a few
    letters with a mark below or above, and Greek vowels and rhos with a
    breathing, a circumflex or a diaeresis and an accent. -/
def markedLetters : List Nat :=
  [0x1F0, 0x390, 0x3B0, 0x1E96, 0x1E97, 0x1E98, 0x1E99, 0x1F50, 0x1F52, 0x1F54, 0x1F56,
   0x1FB6, 0x1FB7, 0x1FC6, 0x1FC7, 0x1FD2, 0x1FD3, 0x1FD6, 0x1FD7, 0x1FE2, 0x1FE3, 0x1FE4,
   0x1FE6, 0x1FE7, 0x1FF6, 0x1FF7]

/-- The combining marks in their upper case: the grave and the acute accent, the
    diaeresis, the ring, the caron, the breathing, the line below and the
    circumflex. -/
def capitalMarks : List Nat :=
  [0x300, 0x301, 0x308, 0x30A, 0x30C, 0x313, 0x331, 0x342]

theorem letters_in_expansions :
    ∀ expansion ∈ uppercaseExpansions,
      (∃ head ∈ expansion.2.head?, holdsAll alphabeticRanges head head = true) ∧
        (expansion.1 ∈ markedLetters ∨
          ∀ code ∈ expansion.2, holdsAll alphabeticRanges code code = true) := by
  decide +kernel

theorem marks_in_expansions :
    ∀ n ∈ markedLetters, ∃ codes ∈ uppercaseExpansions.lookup n, ∃ code ∈ codes,
      code ∈ capitalMarks := by
  decide +kernel

/-- A letter that maps to one character maps to a letter. -/
theorem uppercase_cases_of_isAlphabetic (h : isAlphabetic c = true) :
    (∃ codes, (c.toNat, codes) ∈ uppercaseExpansions ∧ uppercase c = codes.map Char.ofNat) ∨
      ∃ capital, isAlphabetic capital = true ∧ uppercase c = [capital] := by
  rcases uppercase_cases c with ⟨codes, hmem, heq⟩ | ⟨r, hr, code, himage, heq⟩ | heq
  · exact .inl ⟨codes, hmem, heq⟩
  · have hcode := CaseRun.any_holds_of_image? (letters_in_runs r hr) himage
    exact .inr ⟨Char.ofNat code, isAlphabetic_ofNat hcode, heq⟩
  · exact .inr ⟨c, h, heq⟩

/-- **The upper case of a letter starts with a letter.** -/
theorem exists_isAlphabetic_uppercase (h : isAlphabetic c = true) :
    ∃ capital rest, isAlphabetic capital = true ∧ uppercase c = capital :: rest := by
  rcases uppercase_cases_of_isAlphabetic h with ⟨codes, hmem, heq⟩ | ⟨capital, hcapital, heq⟩
  · obtain ⟨⟨head, hhead, hletter⟩, -⟩ := letters_in_expansions _ hmem
    obtain ⟨rest, rfl⟩ := List.head?_eq_some_iff.mp hhead
    exact ⟨Char.ofNat head, rest.map Char.ofNat, isAlphabetic_ofNat_of_holdsAll hletter, heq⟩
  · exact ⟨capital, [], hcapital, heq⟩

/-- The upper case of a letter that is not marked has no other characters. -/
theorem forall_isAlphabetic_uppercase (h : isAlphabetic c = true)
    (hmarked : c.toNat ∉ markedLetters) : ∀ d ∈ uppercase c, isAlphabetic d = true := by
  rcases uppercase_cases_of_isAlphabetic h with ⟨codes, hmem, heq⟩ | ⟨capital, hcapital, heq⟩
  · rw [heq, List.forall_mem_map]
    intro code hcode
    rcases (letters_in_expansions _ hmem).2 with hin | hletters
    · exact absurd hin hmarked
    · exact isAlphabetic_ofNat_of_holdsAll (hletters code hcode)
  · rw [heq]
    intro d hd
    rwa [List.mem_singleton.mp hd]

/-- The upper case of a marked letter has a combining mark. -/
theorem exists_mark_uppercase (h : c.toNat ∈ markedLetters) :
    ∃ code ∈ capitalMarks, Char.ofNat code ∈ uppercase c := by
  obtain ⟨codes, hcodes, code, hcode, hmark⟩ := marks_in_expansions _ h
  refine ⟨code, hmark, ?_⟩
  rw [uppercase, Option.mem_def.mp hcodes]
  exact List.mem_map_of_mem hcode

end StructuredLog.Text
