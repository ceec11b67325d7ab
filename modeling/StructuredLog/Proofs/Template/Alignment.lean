import StructuredLog.Template.Alignment

/-! # Alignment suffixes — which widths are asked for

    A suffix asks for a width when it is a comma and a number, with blanks
    around the number, and after it perhaps a colon and anything else.  The
    number is read off with a search for the colon and a trim; that this finds
    exactly the suffixes of this form is shown from both ends: the parts that
    are cut off can be put back, and blanks, numbers and colons have no
    character in common (`Placeholder.alignment?_eq_some_iff`). -/

namespace StructuredLog.Text

/-! ## Trimming -/

/-- What trimming takes off are blanks. -/
theorem exists_blanks_around_trim (cs : List Char) :
    ∃ before after, cs = before ++ (trim cs ++ after) ∧ (∀ c ∈ before, isBlank c = true) ∧
      ∀ c ∈ after, isBlank c = true := by
  refine ⟨cs.takeWhile isBlank, ((trimStart cs).reverse.takeWhile isBlank).reverse, ?_, ?_, ?_⟩
  · rw [trim, trimStart, ← List.reverse_append, List.takeWhile_append_dropWhile,
      List.reverse_reverse, trimStart, List.takeWhile_append_dropWhile]
  · exact List.all_eq_true.mp List.all_takeWhile
  · intro c hc
    exact List.all_eq_true.mp List.all_takeWhile c (List.mem_reverse.mp hc)

/-- Text that does not start with a blank is its own start. -/
theorem trimStart_append {cs rest : List Char} (hcs : cs ≠ [])
    (hplain : ∀ c ∈ cs, isBlank c = false) : trimStart (cs ++ rest) = cs ++ rest := by
  cases cs with
  | nil => exact absurd rfl hcs
  | cons c cs =>
      exact List.dropWhile_cons_of_neg (ne_true_of_eq_false (hplain c List.mem_cons_self))

/-- Text without blanks is what is left when blanks around it are trimmed. -/
theorem trim_append_append {before cs after : List Char} (hcs : cs ≠ [])
    (hplain : ∀ c ∈ cs, isBlank c = false) (hbefore : ∀ c ∈ before, isBlank c = true)
    (hafter : ∀ c ∈ after, isBlank c = true) : trim (before ++ (cs ++ after)) = cs := by
  have hstart : trimStart (before ++ (cs ++ after)) = cs ++ after := by
    rw [trimStart, List.dropWhile_append_of_pos hbefore]
    exact trimStart_append hcs hplain
  have hend : trimStart (cs ++ after).reverse = cs.reverse := by
    rw [List.reverse_append, trimStart,
      List.dropWhile_append_of_pos fun c hc => hafter c (List.mem_reverse.mp hc),
      ← List.append_nil cs.reverse]
    exact trimStart_append (mt List.reverse_eq_nil_iff.mp hcs)
      fun c hc => hplain c (List.mem_reverse.mp hc)
  rw [trim, hstart, hend, List.reverse_reverse]

theorem isBlank_eq_false_of_isDigit {c : Char} (h : c.isDigit = true) : isBlank c = false := by
  have hdigit : 48 ≤ c.toNat ∧ c.toNat ≤ 57 := by
    simp only [Char.isDigit, Bool.and_eq_true, decide_eq_true_eq, ge_iff_le, UInt32.le_iff_toNat_le]
      at h
    exact h
  rw [isBlank, inTable, List.any_eq_false]
  intro r hr hholds
  have hrange := CodeRange.holds_iff.mp hholds
  simp only [blankRanges, List.mem_cons, List.not_mem_nil, or_false] at hr
  rcases hr with rfl | rfl | rfl | rfl | rfl | rfl | rfl | rfl | rfl | rfl <;>
    simp only at hrange <;> omega

end StructuredLog.Text

namespace StructuredLog.Template

/-! ## Numbers -/

/-- One decimal digit or more. -/
def IsNumeral (digits : List Char) : Prop :=
  digits ≠ [] ∧ ∀ c ∈ digits, c.isDigit = true

/-- Decimal digits after at most one sign write a number. -/
inductive WritesInteger : List Char → Int → Prop where
  | unsigned {digits : List Char} (h : IsNumeral digits) :
    WritesInteger digits (Nat.ofDigitChars 10 digits 0)
  | plus {digits : List Char} (h : IsNumeral digits) :
    WritesInteger ('+' :: digits) (Nat.ofDigitChars 10 digits 0)
  | minus {digits : List Char} (h : IsNumeral digits) :
    WritesInteger ('-' :: digits) (-(Nat.ofDigitChars 10 digits 0 : Int))

theorem readNatural?_eq_some_iff {digits : List Char} {n : Nat} :
    readNatural? digits = some n ↔ IsNumeral digits ∧ n = Nat.ofDigitChars 10 digits 0 := by
  rw [readNatural?, Option.ite_none_right_eq_some, Bool.and_eq_true, Bool.not_eq_true',
    List.isEmpty_eq_false_iff, List.all_eq_true, Option.some.injEq]
  exact and_congr Iff.rfl eq_comm

/-- What is read, and then signed. -/
theorem map_readNatural?_eq_some_iff {sign : Nat → Int} {digits : List Char} {n : Int} :
    (readNatural? digits).map sign = some n ↔
      IsNumeral digits ∧ n = sign (Nat.ofDigitChars 10 digits 0) := by
  simp only [Option.map_eq_some_iff, readNatural?_eq_some_iff]
  constructor
  · rintro ⟨m, ⟨hdigits, rfl⟩, rfl⟩
    exact ⟨hdigits, rfl⟩
  · rintro ⟨hdigits, rfl⟩
    exact ⟨_, ⟨hdigits, rfl⟩, rfl⟩

theorem readInteger?_plus (digits : List Char) :
    readInteger? ('+' :: digits) = (readNatural? digits).map fun n : Nat => (n : Int) :=
  rfl

theorem readInteger?_minus (digits : List Char) :
    readInteger? ('-' :: digits) = (readNatural? digits).map fun n : Nat => -(n : Int) := by
  show ((readNatural? digits).bind fun n => some (n : Int)).map (fun n => -n) = _
  cases readNatural? digits with
  | none => rfl
  | some n => rfl

theorem readInteger?_of_unsigned {cs : List Char} (hplus : cs.head? ≠ some '+')
    (hminus : cs.head? ≠ some '-') :
    readInteger? cs = (readNatural? cs).map fun n : Nat => (n : Int) := by
  unfold readInteger?
  split
  · exact absurd rfl hminus
  · exact absurd rfl hplus
  · rfl

/-- Exactly what writes a number is read. -/
theorem readInteger?_eq_some_iff {cs : List Char} {n : Int} :
    readInteger? cs = some n ↔ WritesInteger cs n := by
  constructor
  · intro h
    by_cases hplus : cs.head? = some '+'
    · obtain ⟨digits, rfl⟩ := List.head?_eq_some_iff.mp hplus
      rw [readInteger?_plus] at h
      obtain ⟨hdigits, rfl⟩ := map_readNatural?_eq_some_iff.mp h
      exact .plus hdigits
    · by_cases hminus : cs.head? = some '-'
      · obtain ⟨digits, rfl⟩ := List.head?_eq_some_iff.mp hminus
        rw [readInteger?_minus] at h
        obtain ⟨hdigits, rfl⟩ := map_readNatural?_eq_some_iff.mp h
        exact .minus hdigits
      · rw [readInteger?_of_unsigned hplus hminus] at h
        obtain ⟨hdigits, rfl⟩ := map_readNatural?_eq_some_iff.mp h
        exact .unsigned hdigits
  · intro h
    cases h with
    | plus hdigits =>
        rw [readInteger?_plus]
        exact map_readNatural?_eq_some_iff.mpr ⟨hdigits, rfl⟩
    | minus hdigits =>
        rw [readInteger?_minus]
        exact map_readNatural?_eq_some_iff.mpr ⟨hdigits, rfl⟩
    | unsigned hdigits =>
        -- a sign is no digit
        have hsign : ∀ sign : Char, sign.isDigit = false → cs.head? ≠ some sign := by
          intro sign hsign hhead
          have hdigit := hdigits.2 sign (List.mem_of_head? hhead)
          exact absurd hdigit (ne_true_of_eq_false hsign)
        rw [readInteger?_of_unsigned (hsign '+' (by decide)) (hsign '-' (by decide))]
        exact map_readNatural?_eq_some_iff.mpr ⟨hdigits, rfl⟩

namespace WritesInteger

variable {cs : List Char} {n : Int}

theorem ne_nil (h : WritesInteger cs n) : cs ≠ [] := by
  cases h with
  | unsigned hdigits => exact hdigits.1
  | plus => exact List.cons_ne_nil _ _
  | minus => exact List.cons_ne_nil _ _

/-- A number is made of signs and digits. -/
theorem forall_mem (h : WritesInteger cs n) {P : Char → Prop} (hplus : P '+') (hminus : P '-')
    (hdigit : ∀ c : Char, c.isDigit = true → P c) : ∀ c ∈ cs, P c := by
  cases h with
  | unsigned hdigits => exact fun c hc => hdigit c (hdigits.2 c hc)
  | plus hdigits => exact List.forall_mem_cons.mpr ⟨hplus, fun c hc => hdigit c (hdigits.2 c hc)⟩
  | minus hdigits =>
      exact List.forall_mem_cons.mpr ⟨hminus, fun c hc => hdigit c (hdigits.2 c hc)⟩

theorem not_blank (h : WritesInteger cs n) : ∀ c ∈ cs, Text.isBlank c = false :=
  h.forall_mem (by decide) (by decide) fun _ => Text.isBlank_eq_false_of_isDigit

theorem ne_colon (h : WritesInteger cs n) : ∀ c ∈ cs, c ≠ ':' := by
  refine h.forall_mem (by decide) (by decide) ?_
  rintro c hc rfl
  exact absurd hc (by decide)

end WritesInteger

/-! ## Suffixes -/

/-- The suffix is a comma and a number with blanks around it, and perhaps a colon and
    anything after it. -/
def WritesAlignment (suffix : String) (n : Int) : Prop :=
  ∃ before number after tail : List Char,
    suffix.toList = ',' :: (before ++ (number ++ after) ++ tail) ∧
      (∀ c ∈ before, Text.isBlank c = true) ∧ WritesInteger number n ∧
      (∀ c ∈ after, Text.isBlank c = true) ∧ (tail = [] ∨ tail.head? = some ':')

/-- The placeholder has a suffix that parses as an alignment of this size and side. -/
def Placeholder.AsksFor (p : Placeholder) (n : Int) : Prop :=
  ∃ suffix, p.suffix? = some suffix ∧ WritesAlignment suffix n

theorem ne_colon_of_isBlank {c : Char} (h : Text.isBlank c = true) : c ≠ ':' := by
  rintro rfl
  exact absurd h (by decide)

/-- The number is between the comma and the first colon. -/
theorem writesAlignment_iff {suffix : String} {n : Int} :
    WritesAlignment suffix n ↔ ∃ cs, suffix.toList = ',' :: cs ∧
      WritesInteger (Text.trim (cs.takeWhile (· ≠ ':'))) n := by
  constructor
  · rintro ⟨before, number, after, tail, hsuffix, hbefore, hnumber, hafter, htail⟩
    refine ⟨_, hsuffix, ?_⟩
    have hno : ∀ c ∈ before ++ (number ++ after), decide (c ≠ ':') = true := by
      intro c hc
      refine decide_eq_true ?_
      rcases List.mem_append.mp hc with hc | hc
      · exact ne_colon_of_isBlank (hbefore c hc)
      · rcases List.mem_append.mp hc with hc | hc
        · exact hnumber.ne_colon c hc
        · exact ne_colon_of_isBlank (hafter c hc)
    have hnone : tail.takeWhile (· ≠ ':') = [] := by
      cases tail with
      | nil => rfl
      | cons c tail =>
          rcases htail with hnil | hcolon
          · exact absurd hnil (List.cons_ne_nil c tail)
          · obtain rfl := Option.some.inj hcolon
            rfl
    rw [List.takeWhile_append_of_pos hno, hnone, List.append_nil,
      Text.trim_append_append hnumber.ne_nil hnumber.not_blank hbefore hafter]
    exact hnumber
  · rintro ⟨cs, hsuffix, hnumber⟩
    obtain ⟨before, after, hparts, hbefore, hafter⟩ :=
      Text.exists_blanks_around_trim (cs.takeWhile (· ≠ ':'))
    refine ⟨before, _, after, cs.dropWhile (· ≠ ':'), ?_, hbefore, hnumber, hafter, ?_⟩
    · rw [← hparts, List.takeWhile_append_dropWhile]
      exact hsuffix
    · have hfirst := List.head?_dropWhile_not (fun c : Char => decide (c ≠ ':')) cs
      cases htail : cs.dropWhile (· ≠ ':') with
      | nil => exact .inl rfl
      | cons c tail =>
          rw [htail] at hfirst
          have hcolon : decide (c ≠ ':') = false := hfirst
          rw [decide_eq_false_iff_not, Decidable.not_not] at hcolon
          exact .inr (congrArg some hcolon)

namespace Placeholder

variable {p : Placeholder} {n : Int}

/-- **A placeholder has an alignment exactly when its suffix parses as one** that is
    below the limit. -/
theorem alignment?_eq_some_iff :
    p.alignment? = some n ↔ p.AsksFor n ∧ n.natAbs < alignmentLimit := by
  rw [alignment?, AsksFor]
  cases hsuffix : p.suffix? with
  | none =>
      refine iff_of_false (Option.some_ne_none n).symm ?_
      rintro ⟨⟨suffix, hnone, -⟩, -⟩
      exact absurd hnone.symm (Option.some_ne_none suffix)
  | some suffix =>
      have hsame : (∃ s, some suffix = some s ∧ WritesAlignment s n) ↔ WritesAlignment suffix n :=
        ⟨fun ⟨s, hs, hwrites⟩ => Option.some.inj hs ▸ hwrites, fun h => ⟨suffix, rfl, h⟩⟩
      rw [hsame, writesAlignment_iff, Option.map_some]
      split
      · next cs hcomma =>
          rw [Option.filter_eq_some_iff, readInteger?_eq_some_iff, decide_eq_true_iff,
            Option.some.inj hcomma]
          refine and_congr_left fun _ => ?_
          exact ⟨fun h => ⟨cs, rfl, h⟩, fun ⟨cs', hcs, h⟩ => (List.cons.inj hcs).2 ▸ h⟩
      · next hother =>
          refine iff_of_false (Option.some_ne_none n).symm ?_
          rintro ⟨⟨cs, hcs, -⟩, -⟩
          exact hother cs (congrArg some hcs)

/-- A width cannot be served if it is above the greatest one but no reason to ignore the
    suffix. -/
theorem isTooWide_iff :
    p.isTooWide = true ↔ ∃ n, p.AsksFor n ∧ maxWidth < n.natAbs ∧ n.natAbs < alignmentLimit := by
  rw [isTooWide, Option.any_eq_true]
  constructor
  · rintro ⟨n, halignment, hwide⟩
    obtain ⟨hasks, hlimit⟩ := alignment?_eq_some_iff.mp halignment
    exact ⟨n, hasks, of_decide_eq_true hwide, hlimit⟩
  · rintro ⟨n, hasks, hwide, hlimit⟩
    exact ⟨n, alignment?_eq_some_iff.mpr ⟨hasks, hlimit⟩, decide_eq_true hwide⟩

end Placeholder

/-! ## Padding -/

/-- A row of spaces. -/
def spaces (k : Nat) : String :=
  String.ofList (List.replicate k ' ')

/-- The text with spaces up to the width `|n|`, before it for a positive `n` and after it
    for a negative one; longer text is whole. -/
structure IsAligned (n : Int) (text padded : String) : Prop where
  length_eq : padded.length = max n.natAbs text.length
  padded_eq : ∃ k, padded = if n < 0 then text ++ spaces k else spaces k ++ text

theorem isAligned_pad (n : Int) (text : String) : IsAligned n text (pad n text) where
  length_eq := by
    rw [pad]
    split
    · rw [String.length_append, String.length_ofList, List.length_replicate]
      omega
    · rw [String.length_append, String.length_ofList, List.length_replicate]
      omega
  padded_eq := ⟨n.natAbs - text.length, rfl⟩

namespace Placeholder

variable {p : Placeholder} {n : Int}

theorem isAligned_fit (h : p.AsksFor n) (hlimit : n.natAbs < alignmentLimit) (text : String) :
    IsAligned n text (p.fit text) := by
  rw [fit, alignment?_eq_some_iff.mpr ⟨h, hlimit⟩]
  exact isAligned_pad n text

/-- Text is not padded for a suffix that does not parse or is ignored for its size. -/
theorem fit_eq_self (h : ∀ n, p.AsksFor n → alignmentLimit ≤ n.natAbs) (text : String) :
    p.fit text = text := by
  rw [fit]
  cases halignment : p.alignment? with
  | none => rfl
  | some n =>
      obtain ⟨hasks, hlimit⟩ := alignment?_eq_some_iff.mp halignment
      exact absurd hlimit (Nat.not_lt.mpr (h n hasks))

end Placeholder

end StructuredLog.Template
