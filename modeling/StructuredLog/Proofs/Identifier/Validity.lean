import StructuredLog.Proofs.Identifier.Derivation
import StructuredLog.Proofs.Migration.Settling

/-! # Validity — which derived names are identifiers

    The name of a method starts with a letter and goes on with letters,
    numerals and what the letters that start a word are upper-cased to.  All of
    this may stand in an identifier, but for the combining marks that a few
    letters have in their upper case; so the name is an identifier exactly if
    no such letter starts a word (`derived_name_is_identifier_iff`).  The
    numeral that tells the names `Base2`, `Base3`, … apart changes nothing. -/

namespace StructuredLog

namespace Identifier

variable {before cs : List Char} {c : Char} {hasStarted atBoundary : Bool}

/-! ## Characters of identifiers -/

theorem isContinue_of_isAlphabetic (h : Text.isAlphabetic c = true) : isContinue c = true := by
  rw [isContinue, h, Bool.true_or, Bool.true_or]

theorem isContinue_of_isNumeric (h : Text.isNumeric c = true) : isContinue c = true := by
  rw [isContinue, h, Bool.or_true, Bool.true_or]

theorem isContinue_capitalMarks :
    ∀ code ∈ Text.capitalMarks, isContinue (Char.ofNat code) = false := by
  decide +kernel

/-- The upper case of a letter may stand in an identifier unless the letter is marked. -/
theorem forall_isContinue_uppercase (h : Text.isAlphabetic c = true) :
    (∀ d ∈ Text.uppercase c, isContinue d = true) ↔ c.toNat ∉ Text.markedLetters := by
  constructor
  · intro hcontinue hmarked
    obtain ⟨code, hmark, hmem⟩ := Text.exists_mark_uppercase hmarked
    exact absurd (hcontinue _ hmem) (Bool.eq_false_iff.mp (isContinue_capitalMarks code hmark))
  · intro hmarked d hd
    exact isContinue_of_isAlphabetic (Text.forall_isAlphabetic_uppercase h hmarked d hd)

/-- A name that starts with a letter is an identifier if its characters may stand in one. -/
theorem isIdentifier_iff_of_letter {name : String} (hname : name.toList = c :: cs)
    (h : Text.isAlphabetic c = true) :
    isIdentifier name = true ↔ ∀ d ∈ name.toList, isContinue d = true := by
  have hstart : isStart c = true := by rw [isStart, h, Bool.true_or]
  rw [isIdentifier, hname]
  simp only [hstart, Bool.true_and, List.all_eq_true, List.forall_mem_cons,
    isContinue_of_isAlphabetic h, true_and]

/-! ## Starts of words -/

/-- The characters before a letter let it start a word: there is no letter among
    them, or the last one is neither a letter nor a numeral. -/
def IsBoundary (before : List Char) : Prop :=
  (∀ b ∈ before, Text.isAlphabetic b = false) ∨
    ∃ b ∈ before.getLast?, Text.isAlphabetic b = false ∧ Text.isNumeric b = false

/-- A character is a letter and starts a word after the characters before it. -/
def StartsWord (before : List Char) (c : Char) : Prop :=
  Text.isAlphabetic c = true ∧ IsBoundary before

/-- No marked letter starts a word among characters, read after those before them. -/
def NoMarkedStart (before cs : List Char) : Prop :=
  ∀ passed c after, cs = passed ++ c :: after → StartsWord (before ++ passed) c →
    c.toNat ∉ Text.markedLetters

theorem noMarkedStart_nil : NoMarkedStart before [] := by
  intro passed c after h
  exact absurd h.symm (List.append_ne_nil_of_right_ne_nil passed (List.cons_ne_nil c after))

/-- Whether a marked letter starts a word shows character by character. -/
theorem noMarkedStart_cons :
    NoMarkedStart before (c :: cs) ↔
      (StartsWord before c → c.toNat ∉ Text.markedLetters) ∧ NoMarkedStart (before ++ [c]) cs := by
  constructor
  · intro h
    refine ⟨?_, ?_⟩
    · intro hstart
      exact h [] c cs rfl (by rwa [List.append_nil])
    · intro passed d after hcs hstart
      refine h (c :: passed) d after (congrArg (List.cons c) hcs) ?_
      rwa [List.append_cons]
  · rintro ⟨hhead, htail⟩ passed d after hcs hstart
    cases passed with
    | nil =>
        obtain ⟨rfl, rfl⟩ := List.cons_eq_cons.mp hcs
        exact hhead (by rwa [List.append_nil] at hstart)
    | cons e passed =>
        obtain ⟨rfl, htl⟩ := List.cons_eq_cons.mp hcs
        refine htail passed d after htl ?_
        rwa [List.append_cons] at hstart

/-- The two flags of the derivation, after the characters before. -/
structure Tracks (before : List Char) (hasStarted atBoundary : Bool) : Prop where
  hasStarted_iff : hasStarted = true ↔ ∃ b ∈ before, Text.isAlphabetic b = true
  atBoundary_iff : atBoundary = true ↔ IsBoundary before

theorem tracks_nil : Tracks [] false true where
  hasStarted_iff := by simp
  atBoundary_iff := by simp [IsBoundary]

namespace Tracks

theorem letter (hc : Text.isAlphabetic c = true) : Tracks (before ++ [c]) true false where
  hasStarted_iff := by
    simp only [true_iff]
    exact ⟨c, List.mem_concat_self, hc⟩
  atBoundary_iff := by
    simp [IsBoundary, hc]

theorem numeral (h : Tracks before true atBoundary) (hletter : Text.isAlphabetic c = false)
    (hc : Text.isNumeric c = true) : Tracks (before ++ [c]) true false where
  hasStarted_iff := by
    simpa [hletter] using h.hasStarted_iff
  atBoundary_iff := by
    obtain ⟨b, hb, hbletter⟩ := h.hasStarted_iff.mp rfl
    refine iff_of_false Bool.false_ne_true ?_
    rintro (hnone | ⟨d, hd, -, hdropped⟩)
    · exact Bool.false_ne_true ((hnone b (List.mem_append_left _ hb)).symm.trans hbletter)
    · rw [List.getLast?_concat, Option.mem_some_iff] at hd
      exact Bool.false_ne_true (hdropped.symm.trans (hd ▸ hc))

/-- A numeral before the first letter is no boundary, and none is needed there. -/
theorem leadingNumeral (h : Tracks before false atBoundary)
    (hletter : Text.isAlphabetic c = false) : Tracks (before ++ [c]) false atBoundary where
  hasStarted_iff := by
    simpa [hletter] using h.hasStarted_iff
  atBoundary_iff := by
    have hnone : ∀ b ∈ before, Text.isAlphabetic b = false := by
      simpa using h.hasStarted_iff
    have hnone' : ∀ b ∈ before ++ [c], Text.isAlphabetic b = false := by
      rw [List.forall_mem_append, List.forall_mem_singleton]
      exact ⟨hnone, hletter⟩
    rw [h.atBoundary_iff]
    exact iff_of_true (.inl hnone) (.inl hnone')

theorem dropped (h : Tracks before hasStarted atBoundary) (hletter : Text.isAlphabetic c = false)
    (hc : Text.isNumeric c = false) : Tracks (before ++ [c]) hasStarted true where
  hasStarted_iff := by
    simp [h.hasStarted_iff, hletter]
  atBoundary_iff := by
    simp [IsBoundary, hletter, hc]

end Tracks

/-- **What a template leaves may stand in an identifier unless a marked letter starts a word.** -/
theorem forall_isContinue_derivedChars (h : Tracks before hasStarted atBoundary) :
    (∀ d ∈ derivedChars hasStarted atBoundary cs, isContinue d = true) ↔
      NoMarkedStart before cs := by
  induction cs generalizing before hasStarted atBoundary with
  | nil => exact iff_of_true (List.forall_mem_nil _) noMarkedStart_nil
  | cons c cs ih =>
      rw [derivedChars, noMarkedStart_cons]
      by_cases hletter : Text.isAlphabetic c = true
      · rw [if_pos hletter, List.forall_mem_append, ih (.letter hletter)]
        refine and_congr_left fun _ => ?_
        cases hboundary : atBoundary with
        | true =>
            rw [if_pos rfl, forall_isContinue_uppercase hletter]
            have hstart : StartsWord before c := ⟨hletter, h.atBoundary_iff.mp hboundary⟩
            exact ⟨fun hmarked _ => hmarked, fun hmarked => hmarked hstart⟩
        | false =>
            refine iff_of_true ?_ ?_
            · simpa using isContinue_of_isAlphabetic hletter
            · intro hstart
              exact absurd (h.atBoundary_iff.mpr hstart.2) (Bool.eq_false_iff.mp hboundary)
      · have hstart : ¬ StartsWord before c := fun hstart => hletter hstart.1
        rw [if_neg hletter]
        rw [Bool.not_eq_true] at hletter
        simp only [hstart, false_implies, true_and]
        by_cases hnumeral : Text.isNumeric c = true
        · rw [if_pos hnumeral]
          cases hasStarted with
          | true =>
              rw [if_pos rfl, List.forall_mem_cons, ih (h.numeral hletter hnumeral)]
              exact and_iff_right (isContinue_of_isNumeric hnumeral)
          | false =>
              rw [if_neg Bool.false_ne_true]
              exact ih (h.leadingNumeral hletter)
        · rw [if_neg hnumeral]
          exact ih (h.dropped hletter (Bool.not_eq_true _ ▸ hnumeral))

/-! ## The whole name -/

theorem all_isContinue_fallbackName : fallbackName.toList.all isContinue = true := by
  decide +kernel

theorem forall_isContinue_derive (template : String) :
    (∀ d ∈ (derive template).toList, isContinue d = true) ↔ NoMarkedStart [] template.toList := by
  rw [← forall_isContinue_derivedChars tracks_nil]
  rcases derive_cases template with ⟨hnil, hname⟩ | ⟨hname, -⟩
  · rw [hnil, hname]
    exact iff_of_true (List.all_eq_true.mp all_isContinue_fallbackName) (List.forall_mem_nil _)
  · rw [hname]

end Identifier

namespace WantedMethod

/-- The names to try differ from the base name by numerals at the end. -/
theorem exists_numerals_nthName (wanted : WantedMethod) (n : Nat) :
    ∃ numerals, (wanted.nthName n).toList = wanted.baseName.toList ++ numerals ∧
      ∀ d ∈ numerals, Text.isNumeric d = true := by
  rcases Nat.lt_or_ge 1 n with hn | hn
  · refine ⟨Nat.toDigits 10 n, ?_, ?_⟩
    · rw [nthName_of_lt hn, String.toList_append]
      exact congrArg _ Nat.toList_repr
    · intro d hd
      exact Text.isNumeric_of_isDigit (Nat.isDigit_of_mem_toDigits (by decide) (by decide) hd)
  · exact ⟨[], by rw [nthName_of_le hn, List.append_nil], List.forall_mem_nil _⟩

end WantedMethod

open Identifier in
/-- **A derived name is an identifier exactly if no marked letter starts a word.**
    Whatever the template and the number of the try, the name starts with a
    letter, so never with an underscore. -/
theorem derived_name_is_identifier_iff (template : String) (shape : Shape) (n : Nat) :
    let name := (WantedMethod.mk (derive template) shape).nthName n
    (∃ c cs, name.toList = c :: cs ∧ Text.isAlphabetic c = true) ∧
      startsReserved '_' name = false ∧
      (isIdentifier name = true ↔
        ∀ before c after, template.toList = before ++ c :: after → StartsWord before c →
          c.toNat ∉ Text.markedLetters) := by
  intro name
  obtain ⟨numerals, hname, hnumerals⟩ :=
    (WantedMethod.mk (derive template) shape).exists_numerals_nthName n
  obtain ⟨c, cs, hderive, hletter⟩ := exists_letter_derive template
  have hcons : name.toList = c :: (cs ++ numerals) := by
    rw [hname, hderive, List.cons_append]
  refine ⟨⟨c, cs ++ numerals, hcons, hletter⟩, startsReserved_of_letter hcons hletter, ?_⟩
  rw [isIdentifier_iff_of_letter hcons hletter, hname, List.forall_mem_append,
    and_iff_left fun d hd => isContinue_of_isNumeric (hnumerals d hd)]
  exact forall_isContinue_derive template

/-- The j with a caron has no capital of its own: a name that starts with it
    goes on with a combining caron, which no identifier has. -/
theorem caron_is_no_identifier :
    Identifier.derive "ǰ" = "J\u030C" ∧ Identifier.isIdentifier (Identifier.derive "ǰ") = false := by
  decide +kernel

-- Inside a word the same letter is kept as it is.
example : Identifier.derive "aǰ" = "Aǰ" ∧ Identifier.isIdentifier "Aǰ" = true := by
  decide +kernel

end StructuredLog
