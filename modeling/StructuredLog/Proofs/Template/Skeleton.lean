import StructuredLog.Template.Cut

/-! # Skeletons — templates written piece by piece

    A skeleton is a list of pieces: text without braces, doubled braces, and
    slots, which are placeholders written out.  Written one after another, the
    pieces may put many equal braces side by side: `{{` before a slot makes a
    run of three, and so does `}}` after one.  A run has an odd length just
    where a slot's own brace is in it, and since an opening run opens at its
    last brace and a closing run closes at its first, cutting the text finds
    the slots and nothing else (`cut_slot`, `cut_fillers`).

    Only a run of opening braces at the very end of the text is treated unlike
    an escape; but nothing can close after it. -/

namespace StructuredLog.Template

/-! ## Searching on -/

section Search

variable {α : Type} [DecidableEq α] {brace : Brace} {b x : α} {run : Nat}

theorem delimitingBraceFrom_self (next : Nat) (xs : List α) :
    delimitingBraceFrom brace b run next (b :: xs)
      = delimitingBraceFrom brace b (run + 1) (next + 1) xs := by
  rw [delimitingBraceFrom, if_pos rfl]

theorem delimitingBraceFrom_of_even (hx : x ≠ b) (hrun : run % 2 = 0) (next : Nat) (xs : List α) :
    delimitingBraceFrom brace b run next (x :: xs)
      = delimitingBraceFrom brace b 0 (next + 1) xs := by
  rw [delimitingBraceFrom, if_neg hx, if_neg (by rw [hrun]; exact Nat.zero_ne_one)]

theorem delimitingBraceFrom_of_odd (hx : x ≠ b) (hrun : run % 2 = 1) (next : Nat) (xs : List α) :
    delimitingBraceFrom brace b run next (x :: xs) = some (brace.delimiterIndex run next) := by
  rw [delimitingBraceFrom, if_neg hx, if_pos hrun]

/-- The search for a delimiting brace passes over text that has none. -/
theorem delimitingBraceFrom_append_of_not_mem {xs : List α} (h : b ∉ xs) (next : Nat)
    (ys : List α) :
    delimitingBraceFrom brace b 0 next (xs ++ ys)
      = delimitingBraceFrom brace b 0 (next + xs.length) ys := by
  induction xs generalizing next with
  | nil => rfl
  | cons x xs ih =>
      obtain ⟨hx, hxs⟩ := not_or.mp (mt List.mem_cons.mpr h)
      rw [List.cons_append, delimitingBraceFrom_of_even (Ne.symm hx) rfl, ih hxs, List.length_cons,
        Nat.add_assoc, Nat.add_comm 1]

end Search

/-- A placeholder is cut off where an opening brace and a closing one are found. -/
theorem cut_of_closed {cs : List Char} {i j : Nat} (hopen : delimitingBrace? .opening '{' cs = some i)
    (hclose : delimitingBrace? .closing '}' (cs.drop (i + 1)) = some j) :
    cut cs =
      { cut ((cs.drop (i + 1)).drop (j + 1)) with
        holes := ⟨cs.take i, (cs.drop (i + 1)).take j⟩
          :: (cut ((cs.drop (i + 1)).drop (j + 1))).holes } := by
  rw [cut]
  split
  · next hnone => exact absurd (hopen.symm.trans hnone) (Option.some_ne_none i)
  · next i' hsome =>
      obtain rfl : i = i' := Option.some.inj (hopen.symm.trans hsome)
      simp only [hclose]

/-- A text in which nothing closes after an opening brace has no placeholder. -/
theorem cut_of_unclosed {cs : List Char}
    (h : ∀ i, delimitingBrace? .opening '{' cs = some i →
      delimitingBrace? .closing '}' (cs.drop (i + 1)) = none) :
    (cut cs).holes = [] ∧ (cut cs).rest = cs := by
  rw [cut]
  split
  · exact ⟨rfl, rfl⟩
  · next i hsome =>
      simp only [h i hsome, and_self]

/-! ## Pieces -/

/-- Text without braces. -/
def Plain (s : String) : Prop :=
  ∀ brace : Brace, brace.char ∉ s.toList

/-- A piece between the slots. -/
inductive Filler where
  | text (s : String) (plain : Plain s)
  /-- A doubled brace. -/
  | escape (brace : Brace)

/-- A placeholder written out. -/
structure Slot where
  name : String
  /-- What follows the name, with its delimiter. -/
  suffix : String
  name_plain : Plain name
  name_undelimited : name.toList.all (!Hole.isDelimiter ·) = true
  suffix_plain : Plain suffix
  suffix_delimited : suffix.toList.head?.all Hole.isDelimiter = true

/-- A piece of a skeleton. -/
inductive Piece where
  | filler (f : Filler)
  | slot (s : Slot)

/-- The filler as written in a template. -/
def Filler.chars : Filler → List Char
  | .text s _ => s.toList
  | .escape brace => [brace.char, brace.char]

namespace Slot

/-- The text between the braces. -/
def inner (s : Slot) : List Char :=
  s.name.toList ++ s.suffix.toList

/-- The slot as written in a template. -/
def chars (s : Slot) : List Char :=
  '{' :: s.inner ++ ['}']

theorem char_not_mem_inner (s : Slot) (brace : Brace) : brace.char ∉ s.inner :=
  List.not_mem_append (s.name_plain brace) (s.suffix_plain brace)

/-- The run of opening braces that opens the slot ends with its own brace. -/
theorem exists_ne_opening (s : Slot) (tail : List Char) :
    ∃ x rest, s.inner ++ '}' :: tail = x :: rest ∧ x ≠ '{' := by
  cases hinner : s.inner with
  | nil => exact ⟨'}', tail, rfl, by decide⟩
  | cons x rest =>
      refine ⟨x, rest ++ '}' :: tail, rfl, ?_⟩
      rintro rfl
      exact s.char_not_mem_inner .opening (hinner ▸ List.mem_cons_self)

end Slot

namespace Piece

/-- The piece as written in a template. -/
def chars : Piece → List Char
  | .filler f => f.chars
  | .slot s => s.chars

/-- The slot that a piece is. -/
def slot? : Piece → Option Slot
  | .filler _ => none
  | .slot s => some s

end Piece

variable {run : Nat}

/-! ## Cutting a skeleton -/

/-- A filler after an even run leaves an even run behind. -/
theorem Filler.exists_even_run (f : Filler) (hrun : run % 2 = 0) (next : Nat) :
    ∃ run', run' % 2 = 0 ∧ ∀ tail,
      delimitingBraceFrom .opening '{' run next (f.chars ++ tail)
        = delimitingBraceFrom .opening '{' run' (next + f.chars.length) tail := by
  cases f with
  | text s plain =>
      show ∃ run', run' % 2 = 0 ∧ ∀ tail, delimitingBraceFrom .opening '{' run next (s.toList ++ tail)
        = delimitingBraceFrom .opening '{' run' (next + s.toList.length) tail
      cases hs : s.toList with
      | nil => exact ⟨run, hrun, fun tail => rfl⟩
      | cons x xs =>
          have hplain : '{' ∉ x :: xs := hs ▸ plain .opening
          obtain ⟨hx, hxs⟩ := not_or.mp (mt List.mem_cons.mpr hplain)
          refine ⟨0, rfl, ?_⟩
          intro tail
          rw [List.cons_append, delimitingBraceFrom_of_even (Ne.symm hx) hrun,
            delimitingBraceFrom_append_of_not_mem hxs, List.length_cons, Nat.add_assoc,
            Nat.add_comm 1]
  | escape brace =>
      cases brace with
      | opening =>
          refine ⟨run + 2, by omega, ?_⟩
          intro tail
          show delimitingBraceFrom .opening '{' run next ('{' :: '{' :: tail) = _
          rw [delimitingBraceFrom_self, delimitingBraceFrom_self]
          rfl
      | closing =>
          refine ⟨0, rfl, ?_⟩
          intro tail
          show delimitingBraceFrom .opening '{' run next ('}' :: '}' :: tail) = _
          rw [delimitingBraceFrom_of_even (by decide) hrun,
            delimitingBraceFrom_of_even (by decide) rfl]
          rfl

/-- So do several. -/
theorem exists_even_run_fillers (fillers : List Filler) (hrun : run % 2 = 0) (next : Nat)
    (tail : List Char) :
    ∃ run', run' % 2 = 0 ∧
      delimitingBraceFrom .opening '{' run next (fillers.flatMap Filler.chars ++ tail)
        = delimitingBraceFrom .opening '{' run'
            (next + (fillers.flatMap Filler.chars).length) tail := by
  induction fillers generalizing run next with
  | nil => exact ⟨run, hrun, rfl⟩
  | cons f fillers ih =>
      obtain ⟨run', hrun', hfirst⟩ := f.exists_even_run hrun next
      obtain ⟨run'', hrun'', hrest⟩ := ih hrun' (next + f.chars.length)
      refine ⟨run'', hrun'', ?_⟩
      rw [List.flatMap_cons, List.append_assoc, hfirst, hrest, List.length_append, Nat.add_assoc]

/-- After fillers, a slot's opening brace is found. -/
theorem delimitingBrace?_fillers_slot (fillers : List Filler) (s : Slot) (tail : List Char) :
    delimitingBrace? .opening '{' (fillers.flatMap Filler.chars ++ (s.chars ++ tail))
      = some (fillers.flatMap Filler.chars).length := by
  obtain ⟨x, rest, htail, hx⟩ := s.exists_ne_opening tail
  obtain ⟨run, hrun, hfillers⟩ := exists_even_run_fillers fillers (show 0 % 2 = 0 from rfl) 0 (s.chars ++ tail)
  have hslot : s.chars ++ tail = '{' :: x :: rest := by
    rw [Slot.chars, List.cons_append, List.cons_append, List.append_assoc]
    exact congrArg ('{' :: ·) htail
  rw [delimitingBrace?, hfillers, hslot, delimitingBraceFrom_self,
    delimitingBraceFrom_of_odd hx (by omega)]
  show some (0 + (fillers.flatMap Filler.chars).length + 1 - 1) = _
  rw [Nat.zero_add, Nat.add_sub_cancel]

/-- An odd run of closing braces closes at its first brace, whatever pieces follow it. -/
theorem delimitingBraceFrom_closing (pieces : List Piece) (hrun : run % 2 = 1) (next : Nat) :
    delimitingBraceFrom .closing '}' run next (pieces.flatMap Piece.chars) = some (next - run) := by
  induction pieces generalizing run next with
  | nil =>
      show (if run = 0 then none else some (next - run)) = _
      rw [if_neg (by omega)]
  | cons piece pieces ih =>
      rw [List.flatMap_cons]
      cases piece with
      | slot s => exact delimitingBraceFrom_of_odd (by decide) hrun next _
      | filler f =>
          cases f with
          | text s plain =>
              show delimitingBraceFrom .closing '}' run next (s.toList ++ _) = _
              cases hs : s.toList with
              | nil => exact ih hrun next
              | cons x xs =>
                  obtain ⟨hx, -⟩ := not_or.mp (mt List.mem_cons.mpr (hs ▸ plain .closing))
                  exact delimitingBraceFrom_of_odd (Ne.symm hx) hrun next _
          | escape brace =>
              cases brace with
              | opening => exact delimitingBraceFrom_of_odd (by decide) hrun next _
              | closing =>
                  show delimitingBraceFrom .closing '}' run next
                    ('}' :: '}' :: pieces.flatMap Piece.chars) = _
                  rw [delimitingBraceFrom_self, delimitingBraceFrom_self, ih (by omega),
                    Nat.add_assoc, Nat.add_assoc, Nat.add_sub_add_right]

/-- Inside a slot, its closing brace is found. -/
theorem delimitingBrace?_inner (s : Slot) (pieces : List Piece) :
    delimitingBrace? .closing '}' (s.inner ++ '}' :: pieces.flatMap Piece.chars)
      = some s.inner.length := by
  have hplain : '}' ∉ s.inner := s.char_not_mem_inner .closing
  rw [delimitingBrace?, delimitingBraceFrom_append_of_not_mem hplain, delimitingBraceFrom_self,
    delimitingBraceFrom_closing pieces rfl, Nat.zero_add, Nat.add_sub_cancel]

/-- **A slot after fillers is cut off**, and what follows it is cut on its own. -/
theorem cut_slot (fillers : List Filler) (s : Slot) (pieces : List Piece) :
    cut (fillers.flatMap Filler.chars ++ (s.chars ++ pieces.flatMap Piece.chars)) =
      { cut (pieces.flatMap Piece.chars) with
        holes := ⟨fillers.flatMap Filler.chars, s.inner⟩
          :: (cut (pieces.flatMap Piece.chars)).holes } := by
  have hinside : (fillers.flatMap Filler.chars ++ (s.chars ++ pieces.flatMap Piece.chars)).drop
      ((fillers.flatMap Filler.chars).length + 1)
        = s.inner ++ '}' :: pieces.flatMap Piece.chars := by
    rw [← List.drop_drop, List.drop_left, Slot.chars, List.cons_append, List.cons_append,
      List.append_assoc]
    rfl
  rw [cut_of_closed (delimitingBrace?_fillers_slot fillers s _)
    (by rw [hinside]; exact delimitingBrace?_inner s pieces), hinside, List.take_left,
    List.take_left, ← List.drop_drop, List.drop_left]
  rfl

/-- **Fillers are cut nowhere.** -/
theorem cut_fillers (fillers : List Filler) :
    (cut (fillers.flatMap Filler.chars)).holes = [] ∧
      (cut (fillers.flatMap Filler.chars)).rest = fillers.flatMap Filler.chars := by
  refine cut_of_unclosed ?_
  intro i hi
  obtain ⟨run, -, hend⟩ := exists_even_run_fillers fillers (show 0 % 2 = 0 from rfl) 0 []
  rw [List.append_nil, Nat.zero_add] at hend
  rw [delimitingBrace?, hend, delimitingBraceFrom] at hi
  -- only a run at the very end is found, and nothing stands after it
  by_cases hrun : run = 0
  · rw [if_pos hrun] at hi
    exact absurd hi.symm (Option.some_ne_none i)
  · rw [if_neg hrun] at hi
    rw [List.drop_eq_nil_of_le]
    · rfl
    · have := Option.some.inj hi
      simp only [Brace.delimiterIndex] at this
      omega

end StructuredLog.Template
