import StructuredLog.Proofs.Template.RoundTrip

/-! # Bytes — scanning the encoding of a text

    Placeholders are located by bytes, and a scanner may look for their braces
    in the UTF-8 encoding of a template without decoding it.  It finds the same
    ones.  Braces and delimiters take one byte each, which is in the encoding of
    no other character (`not_mem_utf8EncodeChar`); so a search of the bytes stops
    at the place of the brace at which a search of the characters does
    (`delimitingBrace?_utf8Bytes`), and a whole scan yields the spans of the
    placeholders (`scanBytes_eq`). -/

namespace StructuredLog.Text

/-! ## Encoding -/

/-- The bytes of the UTF-8 encoding of the characters. -/
def utf8Bytes (cs : List Char) : List UInt8 :=
  cs.flatMap String.utf8EncodeChar

@[simp] theorem utf8Bytes_nil : utf8Bytes [] = [] := rfl

theorem utf8Bytes_cons (c : Char) (cs : List Char) :
    utf8Bytes (c :: cs) = String.utf8EncodeChar c ++ utf8Bytes cs := rfl

theorem utf8Bytes_append (as bs : List Char) :
    utf8Bytes (as ++ bs) = utf8Bytes as ++ utf8Bytes bs :=
  List.flatMap_append

theorem length_utf8Bytes (cs : List Char) : (utf8Bytes cs).length = utf8Length cs := by
  induction cs with
  | nil => rfl
  | cons c cs ih =>
      rw [utf8Bytes_cons, List.length_append, String.length_utf8EncodeChar, ih, utf8Length_cons]

/-- The bytes of a text. -/
theorem utf8Bytes_toList (s : String) : utf8Bytes s.toList = s.toByteArray.data.toList := by
  rw [← String.utf8Encode_toList]
  exact List.toList_data_toByteArray.symm

theorem take_utf8Bytes (cs : List Char) (n : Nat) :
    (utf8Bytes cs).take (utf8Length (cs.take n)) = utf8Bytes (cs.take n) := by
  conv => lhs; rw [← List.take_append_drop n cs, utf8Bytes_append]
  rw [List.take_append_drop, ← length_utf8Bytes, List.take_left]

theorem drop_utf8Bytes (cs : List Char) (n : Nat) :
    (utf8Bytes cs).drop (utf8Length (cs.take n)) = utf8Bytes (cs.drop n) := by
  conv => lhs; rw [← List.take_append_drop n cs, utf8Bytes_append]
  rw [List.take_append_drop, ← length_utf8Bytes, List.drop_left]

/-- An ASCII character takes one byte. -/
theorem utf8EncodeChar_of_ascii {c : Char} (h : c.toNat < 128) :
    String.utf8EncodeChar c = [c.toUInt8] := by
  rw [String.utf8EncodeChar]
  exact if_pos (Nat.le_of_lt_succ h)

/-- The bytes of other characters are no ASCII characters. -/
theorem le_of_mem_utf8EncodeChar {c : Char} (h : 128 ≤ c.toNat) {x : UInt8}
    (hx : x ∈ String.utf8EncodeChar c) : 128 ≤ x.toNat := by
  have hmark : ∀ n : Nat, 128 ≤ n → n < 256 → 128 ≤ (UInt8.ofNat n).toNat := by
    intro n hn hlt
    rw [UInt8.toNat_ofNat', Nat.mod_eq_of_lt hlt]
    exact hn
  have hwide : ¬ c.val.toNat ≤ 127 := Nat.not_le.mpr h
  rw [String.utf8EncodeChar, if_neg hwide] at hx
  split at hx
  · simp only [List.mem_cons, List.not_mem_nil, or_false] at hx
    rcases hx with rfl | rfl <;> exact hmark _ (by omega) (by omega)
  · split at hx
    · simp only [List.mem_cons, List.not_mem_nil, or_false] at hx
      rcases hx with rfl | rfl | rfl <;> exact hmark _ (by omega) (by omega)
    · simp only [List.mem_cons, List.not_mem_nil, or_false] at hx
      rcases hx with rfl | rfl | rfl | rfl <;> exact hmark _ (by omega) (by omega)

theorem toNat_toUInt8_of_ascii {c : Char} (h : c.toNat < 128) : c.toUInt8.toNat = c.toNat := by
  rw [Char.toUInt8, UInt32.toNat_toUInt8]
  exact Nat.mod_eq_of_lt (Nat.lt_trans h (by decide))

/-- The byte of an ASCII character is in the encoding of no other one. -/
theorem not_mem_utf8EncodeChar {b c : Char} (hb : b.toNat < 128) (hne : c ≠ b) :
    b.toUInt8 ∉ String.utf8EncodeChar c := by
  intro hmem
  by_cases hc : c.toNat < 128
  · rw [utf8EncodeChar_of_ascii hc, List.mem_singleton] at hmem
    have hnat := congrArg UInt8.toNat hmem
    rw [toNat_toUInt8_of_ascii hb, toNat_toUInt8_of_ascii hc] at hnat
    exact hne (Char.toNat_inj.mp hnat.symm)
  · have hle := le_of_mem_utf8EncodeChar (Nat.not_lt.mp hc) hmem
    rw [toNat_toUInt8_of_ascii hb] at hle
    exact absurd hb (Nat.not_lt.mpr hle)

end StructuredLog.Text

namespace StructuredLog.Template

open Text

/-! ## Searching for a brace -/

section Search

variable {α : Type} [DecidableEq α] {brace : Brace} {b : α}

/-- After a run something that is no brace ends the search, or else is passed. -/
theorem delimitingBraceFrom_of_run_ends {xs : List α} (hxs : xs ≠ []) (h : b ∉ xs)
    (run next : Nat) (rest : List α) :
    delimitingBraceFrom brace b run next (xs ++ rest)
      = if run % 2 = 1 then some (brace.delimiterIndex run next)
        else delimitingBraceFrom brace b 0 (next + xs.length) rest := by
  cases xs with
  | nil => exact absurd rfl hxs
  | cons x xs =>
      obtain ⟨hx, hxs⟩ := not_or.mp (mt List.mem_cons.mpr h)
      rw [List.cons_append, delimitingBraceFrom, if_neg (Ne.symm hx),
        delimitingBraceFrom_append_of_not_mem hxs, List.length_cons, Nat.add_assoc, Nat.add_comm 1]

end Search

section Encoding

variable {brace : Brace} {b : Char}

theorem utf8Length_replicate_of_ascii (hb : b.toNat < 128) (n : Nat) :
    utf8Length (List.replicate n b) = n := by
  induction n with
  | zero => rfl
  | succ n ih =>
      rw [List.replicate_succ, utf8Length_cons, ih, ← String.length_utf8EncodeChar,
        utf8EncodeChar_of_ascii hb, List.length_singleton, Nat.add_comm]

/-- The bytes before the brace that delimits are those of the characters before it. -/
theorem utf8Length_take_delimiterIndex (hb : b.toNat < 128) {run : Nat} (hrun : run ≠ 0)
    (before rest : List Char) :
    utf8Length ((before ++ (List.replicate run b ++ rest)).take
        (brace.delimiterIndex run (before.length + run)))
      = brace.delimiterIndex run (utf8Length before + run) := by
  cases brace with
  | opening =>
      show utf8Length (List.take (before.length + run - 1) _) = utf8Length before + run - 1
      have hlast : run - 1 ≤ (List.replicate run b).length := by
        rw [List.length_replicate]
        exact Nat.sub_le run 1
      rw [Nat.add_sub_assoc (Nat.one_le_iff_ne_zero.mpr hrun), List.take_length_add_append,
        List.take_append_of_le_length hlast, List.take_replicate,
        Nat.min_eq_left (Nat.sub_le run 1), utf8Length_append, utf8Length_replicate_of_ascii hb,
        Nat.add_sub_assoc (Nat.one_le_iff_ne_zero.mpr hrun)]
  | closing =>
      show utf8Length (List.take (before.length + run - run) _) = utf8Length before + run - run
      rw [Nat.add_sub_cancel, Nat.add_sub_cancel, List.take_left]

/-- The step of the search of `delimitingBrace?_utf8Bytes`, after a run. -/
theorem delimitingBraceFrom_utf8Bytes (hb : b.toNat < 128) (before cs : List Char) (run : Nat) :
    delimitingBraceFrom brace b.toUInt8 run (utf8Length before + run) (utf8Bytes cs)
      = (delimitingBraceFrom brace b run (before.length + run) cs).map fun i =>
          utf8Length ((before ++ (List.replicate run b ++ cs)).take i) := by
  induction cs generalizing before run with
  | nil =>
      rw [utf8Bytes_nil, delimitingBraceFrom, delimitingBraceFrom]
      by_cases hrun : run = 0
      · rw [if_pos hrun, if_pos hrun]
        rfl
      · rw [if_neg hrun, if_neg hrun, Option.map_some, utf8Length_take_delimiterIndex hb hrun]
  | cons c cs ih =>
      rw [utf8Bytes_cons]
      by_cases hc : c = b
      · subst hc
        have htext : before ++ (List.replicate run c ++ c :: cs)
            = before ++ (List.replicate (run + 1) c ++ cs) := by
          rw [List.replicate_succ', List.append_assoc]
          rfl
        rw [utf8EncodeChar_of_ascii hb, List.singleton_append, delimitingBraceFrom, if_pos rfl,
          delimitingBraceFrom, if_pos rfl, htext]
        exact ih before (run + 1)
      · rw [delimitingBraceFrom_of_run_ends String.utf8EncodeChar_ne_nil
          (not_mem_utf8EncodeChar hb hc), delimitingBraceFrom, if_neg hc]
        by_cases hodd : run % 2 = 1
        · have hrun : run ≠ 0 := by
            rintro rfl
            exact absurd hodd (by decide)
          rw [if_pos hodd, if_pos hodd, Option.map_some, utf8Length_take_delimiterIndex hb hrun]
        · rw [if_neg hodd, if_neg hodd]
          have htext : before ++ (List.replicate run b ++ c :: cs)
              = (before ++ (List.replicate run b ++ [c])) ++ (List.replicate 0 b ++ cs) := by
            rw [List.append_assoc, List.append_assoc]
            rfl
          have hlength : before.length + run + 1
              = (before ++ (List.replicate run b ++ [c])).length + 0 := by
            rw [List.length_append, List.length_append, List.length_replicate]
            rfl
          have hbytes : utf8Length before + run + c.utf8Size
              = utf8Length (before ++ (List.replicate run b ++ [c])) + 0 := by
            rw [utf8Length_append, utf8Length_append, utf8Length_replicate_of_ascii hb]
            exact Nat.add_assoc _ _ _
          rw [String.length_utf8EncodeChar, htext, hlength, hbytes]
          exact ih _ 0

/-- **The bytes have the brace where the characters do.** -/
theorem delimitingBrace?_utf8Bytes (hb : b.toNat < 128) (cs : List Char) :
    delimitingBrace? brace b.toUInt8 (utf8Bytes cs)
      = (delimitingBrace? brace b cs).map fun i => utf8Length (cs.take i) :=
  delimitingBraceFrom_utf8Bytes hb [] cs 0

end Encoding

/-! ## Scanning -/

/-- Where a placeholder stands among the bytes of its template. -/
structure ByteSpan where
  /-- The place of its opening brace. -/
  first : Nat
  /-- The place just after its name. -/
  nameStop : Nat
  /-- The place just after its closing brace. -/
  stop : Nat
  deriving DecidableEq, Repr

/-- The span of a placeholder. -/
def Placeholder.byteSpan (p : Placeholder) : ByteSpan :=
  ⟨p.first, p.first + 1 + p.name.utf8ByteSize, p.stop⟩

/-- Whether the byte is that of a delimiter. -/
def isDelimiterByte (x : UInt8) : Bool :=
  x == ','.toUInt8 || x == ':'.toUInt8

/-- Scan the bytes of a template from a place on for placeholders, and tell whether all
    that were opened were closed. -/
def scanBytes (offset : Nat) (bytes : List UInt8) : List ByteSpan × Bool :=
  match _hopen : delimitingBrace? .opening '{'.toUInt8 bytes with
  | none => ([], true)
  | some i =>
    let inside := bytes.drop (i + 1)
    match delimitingBrace? .closing '}'.toUInt8 inside with
    | none => ([], false)
    | some j =>
      let name := (inside.take j).takeWhile (!isDelimiterByte ·)
      let later := scanBytes (offset + (i + 1 + (j + 1))) (inside.drop (j + 1))
      (⟨offset + i, offset + i + 1 + name.length, offset + (i + 1 + (j + 1))⟩ :: later.1, later.2)
termination_by bytes.length
decreasing_by
  have := delimitingBrace?_lt _hopen
  simp only [List.length_drop]
  omega

section Steps

variable {bytes : List UInt8} {i j : Nat} (offset : Nat)

theorem scanBytes_of_unopened (h : delimitingBrace? .opening '{'.toUInt8 bytes = none) :
    scanBytes offset bytes = ([], true) := by
  rw [scanBytes]
  split
  · rfl
  · next i hsome => exact absurd (hsome.symm.trans h) (Option.some_ne_none i)

theorem scanBytes_of_left_open (hopen : delimitingBrace? .opening '{'.toUInt8 bytes = some i)
    (hclose : delimitingBrace? .closing '}'.toUInt8 (bytes.drop (i + 1)) = none) :
    scanBytes offset bytes = ([], false) := by
  rw [scanBytes]
  split
  · next hnone => exact absurd (hopen.symm.trans hnone) (Option.some_ne_none i)
  · next i' hsome =>
      obtain rfl : i = i' := Option.some.inj (hopen.symm.trans hsome)
      simp only [hclose]

/-- A placeholder that is closed is one hole, and the scan goes on behind it. -/
theorem scanBytes_of_closed (hopen : delimitingBrace? .opening '{'.toUInt8 bytes = some i)
    (hclose : delimitingBrace? .closing '}'.toUInt8 (bytes.drop (i + 1)) = some j) :
    scanBytes offset bytes =
      let later := scanBytes (offset + (i + 1 + (j + 1))) ((bytes.drop (i + 1)).drop (j + 1))
      (⟨offset + i,
          offset + i + 1
            + (((bytes.drop (i + 1)).take j).takeWhile (!isDelimiterByte ·)).length,
          offset + (i + 1 + (j + 1))⟩ :: later.1, later.2) := by
  rw [scanBytes]
  split
  · next hnone => exact absurd (hopen.symm.trans hnone) (Option.some_ne_none i)
  · next i' hsome =>
      obtain rfl : i = i' := Option.some.inj (hopen.symm.trans hsome)
      simp only [hclose]

end Steps

/-- The name ends at the same byte. -/
theorem takeWhile_utf8Bytes (cs : List Char) :
    (utf8Bytes cs).takeWhile (!isDelimiterByte ·)
      = utf8Bytes (cs.takeWhile (!Hole.isDelimiter ·)) := by
  induction cs with
  | nil => rfl
  | cons c cs ih =>
      rw [utf8Bytes_cons]
      by_cases hc : Hole.isDelimiter c = true
      · rw [List.takeWhile_cons_of_neg (by simp [hc])]
        rw [Hole.isDelimiter, Bool.or_eq_true, beq_iff_eq, beq_iff_eq] at hc
        rcases hc with rfl | rfl
        · rfl
        · rfl
      · have hplain : ∀ x ∈ String.utf8EncodeChar c, (!isDelimiterByte x) = true := by
          intro x hx
          rw [Hole.isDelimiter, Bool.or_eq_true, beq_iff_eq, beq_iff_eq, not_or] at hc
          rw [isDelimiterByte, Bool.not_eq_true', Bool.or_eq_false_iff, beq_eq_false_iff_ne,
            beq_eq_false_iff_ne]
          constructor
          · rintro rfl
            exact not_mem_utf8EncodeChar (by decide) hc.1 hx
          · rintro rfl
            exact not_mem_utf8EncodeChar (by decide) hc.2 hx
        rw [List.takeWhile_append_of_pos hplain, ih,
          List.takeWhile_cons_of_pos (by simp [hc])]
        rfl

/-- The place after a brace is one byte further than the brace. -/
theorem utf8Length_take_succ {b : Char} (hb : b.toNat < 128) {brace : Brace} {cs : List Char}
    {i : Nat} (h : delimitingBrace? brace b cs = some i) :
    utf8Length (cs.take (i + 1)) = utf8Length (cs.take i) + 1 := by
  rw [List.take_add_one, delimitingBrace?_getElem? h, utf8Length_append]
  show _ + utf8Length (List.replicate 1 b) = _
  rw [utf8Length_replicate_of_ascii hb]

/-- The bytes behind a brace are those of the characters behind it. -/
theorem drop_utf8Bytes_of_brace {b : Char} (hb : b.toNat < 128) {brace : Brace} {cs : List Char}
    {i : Nat} (h : delimitingBrace? brace b cs = some i) :
    (utf8Bytes cs).drop (utf8Length (cs.take i) + 1) = utf8Bytes (cs.drop (i + 1)) := by
  rw [← utf8Length_take_succ hb h, drop_utf8Bytes]

/-- The span of a placeholder, by the parts of its hole. -/
theorem Hole.byteSpan_placeholder (h : Hole) (position offset : Nat) :
    (h.placeholder position offset).byteSpan
      = ⟨offset + utf8Length h.gap, offset + utf8Length h.gap + 1 + utf8Length h.nameChars,
          offset + utf8Length h.chars⟩ := by
  rw [Placeholder.byteSpan, placeholder, utf8ByteSize_ofList]

theorem Hole.utf8Length_chars (h : Hole) :
    utf8Length h.chars = utf8Length h.gap + 1 + (utf8Length h.inner + 1) := by
  show utf8Length (h.gap ++ '{' :: (h.inner ++ ['}'])) = _
  rw [utf8Length_append, utf8Length_cons, utf8Length_append]
  show _ + (1 + (_ + 1)) = _
  rw [← Nat.add_assoc]

/-- The scans of a text's bytes and of its characters, from any place on: by recursion on
    the cut, whose two searches find what those of the bytes do. -/
theorem scanBytes_utf8Bytes (cs : List Char) (position offset : Nat) :
    scanBytes offset (utf8Bytes cs)
      = ((placeholdersFrom position offset (cut cs).holes).map Placeholder.byteSpan,
          (cut cs).terminated) := by
  fun_induction cut cs generalizing position offset with
  | case1 cs hopen =>
      refine scanBytes_of_unopened offset ?_
      rw [delimitingBrace?_utf8Bytes (by decide), hopen]
      rfl
  | case2 cs i hopen inside hclose =>
      have hinside : (utf8Bytes cs).drop (utf8Length (cs.take i) + 1) = utf8Bytes inside :=
        drop_utf8Bytes_of_brace (by decide) hopen
      refine scanBytes_of_left_open offset (i := utf8Length (cs.take i)) ?_ ?_
      · rw [delimitingBrace?_utf8Bytes (by decide), hopen]
        rfl
      · rw [hinside, delimitingBrace?_utf8Bytes (by decide), hclose]
        rfl
  | case3 cs i hopen inside j hclose later ih =>
      have hinside : (utf8Bytes cs).drop (utf8Length (cs.take i) + 1) = utf8Bytes inside :=
        drop_utf8Bytes_of_brace (by decide) hopen
      have hlength : utf8Length (cs.take i) + 1 + (utf8Length (inside.take j) + 1)
          = utf8Length (Hole.mk (cs.take i) (inside.take j)).chars :=
        (Hole.utf8Length_chars ⟨cs.take i, inside.take j⟩).symm
      rw [scanBytes_of_closed offset (i := utf8Length (cs.take i))
        (j := utf8Length (inside.take j)), hinside, hlength,
        drop_utf8Bytes_of_brace (by decide) hclose, take_utf8Bytes, takeWhile_utf8Bytes,
        length_utf8Bytes, ih (position + 1), placeholdersFrom, List.map_cons,
        Hole.byteSpan_placeholder]
      · rfl
      · rw [delimitingBrace?_utf8Bytes (by decide), hopen]
        rfl
      · rw [hinside, delimitingBrace?_utf8Bytes (by decide), hclose]
        rfl

/-- **A scan of the bytes finds the placeholders**, and where their names end. -/
theorem scanBytes_eq (template : String) :
    scanBytes 0 template.toByteArray.data.toList
      = ((placeholders template).map Placeholder.byteSpan, !isMalformed template) := by
  rw [← utf8Bytes_toList, scanBytes_utf8Bytes _ 0, isMalformed, Bool.not_not, placeholders]

end StructuredLog.Template
