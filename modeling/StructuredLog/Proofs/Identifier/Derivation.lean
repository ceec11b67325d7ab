import StructuredLog.Identifier.Basic
import StructuredLog.Proofs.Text.Uppercase

/-! # Derivation — how a derived name starts

    Everything before the first letter of a template is dropped, and the upper
    case of a letter starts with a letter; so the name of a method starts with a
    letter (`exists_letter_derive`), and never with the character that is
    reserved by default (`startsReserved_derive`). -/

namespace StructuredLog

namespace Identifier

/-- What a template leaves starts with a letter. -/
theorem head_derivedChars (cs : List Char) :
    ∀ c ∈ (derivedChars false true cs).head?, Text.isAlphabetic c = true := by
  induction cs with
  | nil => exact fun c hc => nomatch hc
  | cons c cs ih =>
      rw [derivedChars]
      by_cases hletter : Text.isAlphabetic c = true
      · obtain ⟨capital, rest, hcapital, heq⟩ := Text.exists_isAlphabetic_uppercase hletter
        rw [if_pos hletter, if_pos rfl, heq]
        intro d hd
        obtain rfl := Option.some.inj hd
        exact hcapital
      · rw [if_neg hletter, if_neg Bool.false_ne_true, ite_self]
        exact ih

theorem derive_cases (template : String) :
    (derivedChars false true template.toList = [] ∧ derive template = fallbackName) ∨
      (derive template).toList = derivedChars false true template.toList ∧
        derivedChars false true template.toList ≠ [] := by
  rw [derive]
  cases derivedChars false true template.toList with
  | nil => exact .inl ⟨rfl, rfl⟩
  | cons c cs => exact .inr ⟨String.toList_ofList, List.cons_ne_nil c cs⟩

/-- A derived name starts with a letter. -/
theorem exists_letter_derive (template : String) :
    ∃ c cs, (derive template).toList = c :: cs ∧ Text.isAlphabetic c = true := by
  rcases derive_cases template with ⟨-, hname⟩ | ⟨hname, hne⟩
  · exact ⟨'L', "ogMessage".toList, by rw [hname]; rfl, by decide +kernel⟩
  · obtain ⟨c, cs, hchars⟩ := List.exists_cons_of_ne_nil hne
    refine ⟨c, cs, hname.trans hchars, head_derivedChars template.toList c ?_⟩
    rw [hchars]
    rfl

theorem toList_derive_ne_nil (template : String) : (derive template).toList ≠ [] := by
  obtain ⟨c, cs, hname, -⟩ := exists_letter_derive template
  exact hname ▸ List.cons_ne_nil c cs

theorem isAlphabetic_underscore : Text.isAlphabetic '_' = false := by
  decide +kernel

/-- A name that starts with a letter is not reserved by default. -/
theorem startsReserved_of_letter {name : String} {c : Char} {cs : List Char}
    (hname : name.toList = c :: cs) (h : Text.isAlphabetic c = true) :
    startsReserved '_' name = false := by
  rw [startsReserved, hname, List.head?_cons]
  refine beq_false_of_ne ?_
  intro heq
  obtain rfl := Option.some.inj heq
  exact Bool.false_ne_true (isAlphabetic_underscore.symm.trans h)

/-- **A derived name is not reserved by default.** -/
theorem startsReserved_derive (template : String) :
    startsReserved '_' (derive template) = false := by
  obtain ⟨c, cs, hname, hletter⟩ := exists_letter_derive template
  exact startsReserved_of_letter hname hletter

/-- What follows a name does not change whether it is reserved. -/
theorem startsReserved_append {name : String} (h : name.toList ≠ []) (reservedInitial : Char)
    (suffix : String) :
    startsReserved reservedInitial (name ++ suffix) = startsReserved reservedInitial name := by
  obtain ⟨c, cs, hname⟩ := List.exists_cons_of_ne_nil h
  rw [startsReserved, startsReserved, String.toList_append, hname]
  rfl

end Identifier

end StructuredLog
