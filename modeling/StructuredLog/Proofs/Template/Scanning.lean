import Mathlib.Data.List.Chain
import StructuredLog.Proofs.Template.RoundTrip
import StructuredLog.Proofs.Template.Runs

/-! # Scanning — every text is taken apart without loss

    A template is any text at all.  Its braces may be stray, nested or never
    closed, and its characters may take several bytes; still its placeholders
    stand in it where they say, and what stands between them belongs to no
    placeholder.

    That a brace is an escape is a matter of the run it stands in.  The run
    that opens a placeholder is odd, since something follows it, so the gap
    before the opening brace keeps an even part of the run; and a closing run
    closes at its first brace, so nothing of it is left inside
    (`Hole.isEscaped_of_mem_holes`).  The rest follows from the cut: holes and
    rest make up the text, so each of them takes up the bytes after those of
    what stands before it (`scan_is_lossless`). -/

namespace StructuredLog.Template

/-! ## Holes -/

/-- The text around the braces of a hole has escapes only. -/
structure Hole.IsEscaped (h : Hole) : Prop where
  gap_evenRuns : EvenRuns '{' h.gap
  inner_evenRuns : EvenRuns '}' h.inner
  inner_starts : h.inner.head? ≠ some '{'

/-- Where something follows the brace that opens, the brace is the last of its run and
    leaves an even part of the run before it. -/
theorem evenRuns_take_of_opening {cs : List Char} {i : Nat}
    (hopen : delimitingBrace? .opening '{' cs = some i) (hinside : cs.drop (i + 1) ≠ []) :
    EvenRuns '{' (cs.take i) ∧ (cs.drop (i + 1)).head? ≠ some '{' := by
  obtain ⟨r, hdelimits, hi, heven⟩ := exists_delimiting_run hopen
  have hpos := r.length_pos
  have hlast : i = r.before.length + (r.length - 1) := by
    rw [hi]
    show r.before.length + r.length - 1 = _
    omega
  have hafter : cs.drop (i + 1) = r.after := by
    rw [← r.drop_before]
    congr 1
    omega
  have hodd : r.length % 2 = 1 := by
    rcases hdelimits with hodd | hend
    · exact hodd
    · exact absurd (hafter.trans hend) hinside
  have hbefore : cs.take i = r.before ++ List.replicate (r.length - 1) '{' := by
    have hrun : List.replicate r.length '{' = List.replicate (r.length - 1) '{' ++ ['{'] := by
      rw [← List.replicate_succ', Nat.sub_add_cancel hpos]
    have htext : cs = (r.before ++ List.replicate (r.length - 1) '{') ++ '{' :: r.after := by
      rw [List.append_assoc, List.append_cons, ← hrun]
      exact r.text_eq.symm
    have hlength : (r.before ++ List.replicate (r.length - 1) '{').length = i := by
      rw [List.length_append, List.length_replicate, hlast]
    conv => lhs; rw [htext, List.take_left' hlength]
  constructor
  · rw [hbefore]
    exact heven.append (evenRuns_replicate (by omega)) (.inl r.before_ends)
  · rw [hafter]
    exact r.after_starts

/-- The brace that closes is the first of its run. -/
theorem evenRuns_take_of_closing {cs : List Char} {j : Nat}
    (hclose : delimitingBrace? .closing '}' cs = some j) : EvenRuns '}' (cs.take j) := by
  obtain ⟨r, -, hj, heven⟩ := exists_delimiting_run hclose
  have hlength : j = r.before.length := by
    rw [hj]
    exact Nat.add_sub_cancel _ _
  rw [hlength, r.take_before]
  exact heven

/-- **Only escapes stand around the braces of a hole.** -/
theorem Hole.isEscaped_of_mem_holes {cs : List Char} {h : Hole} (hh : h ∈ (cut cs).holes) :
    h.IsEscaped := by
  fun_induction cut cs with
  | case1 => exact absurd hh List.not_mem_nil
  | case2 => exact absurd hh List.not_mem_nil
  | case3 cs i hopen inside j hclose later ih =>
      rcases List.mem_cons.mp hh with rfl | hlater
      · have hinside : inside ≠ [] := by
          intro hnil
          have hlt := delimitingBrace?_lt hclose
          rw [hnil] at hlt
          exact absurd hlt (Nat.not_lt_zero j)
        obtain ⟨hgap, hhead⟩ := evenRuns_take_of_opening hopen hinside
        refine ⟨hgap, evenRuns_take_of_closing hclose, ?_⟩
        intro hstart
        refine hhead ?_
        show inside.head? = some '{'
        rw [← List.take_append_drop j inside, List.head?_append, hstart]
        rfl
      · exact ih hlater

/-- An opening brace that is never closed stays in the rest. -/
theorem mem_rest_of_unterminated {cs : List Char} (h : (cut cs).terminated = false) :
    '{' ∈ (cut cs).rest := by
  fun_induction cut cs with
  | case1 => exact absurd h Bool.noConfusion
  | case2 cs i hopen inside hclose =>
      rw [eq_append_of_delimitingBrace? hopen]
      exact List.mem_append_right _ List.mem_cons_self
  | case3 cs i hopen inside j hclose later ih => exact ih h

/-! ## Bytes -/

/-- The text takes up the bytes of the template from `first` up to `stop`, which are
    boundaries of its characters. -/
structure TakesUp (template : String) (first stop : Nat) (text : String) : Prop where
  first_le_stop : first ≤ stop
  stop_le_size : stop ≤ template.utf8ByteSize
  first_isValid : String.Pos.Raw.IsValid template ⟨first⟩
  stop_isValid : String.Pos.Raw.IsValid template ⟨stop⟩
  bytes_eq : template.toByteArray.extract first stop = text.toByteArray

/-- A text takes up the bytes between what is written before it and after it. -/
theorem takesUp_append_append (before text after : String) :
    TakesUp (before ++ (text ++ after)) before.utf8ByteSize
      (before.utf8ByteSize + text.utf8ByteSize) text where
  first_le_stop := Nat.le_add_right _ _
  stop_le_size := by
    rw [String.utf8ByteSize_append, String.utf8ByteSize_append]
    omega
  first_isValid := String.Pos.Raw.isValid_iff_exists_append.mpr ⟨before, text ++ after, rfl, rfl⟩
  stop_isValid := by
    refine String.Pos.Raw.isValid_iff_exists_append.mpr ⟨before ++ text, after, ?_, ?_⟩
    · rw [String.append_assoc]
    · exact String.Pos.Raw.ext (String.utf8ByteSize_append).symm
  bytes_eq := Text.extract_append_append before text after

/-- A part of a list of characters takes up the bytes after those of what stands before
    it. -/
theorem takesUp_of_toList {template : String} {before text after : List Char}
    (h : template.toList = before ++ (text ++ after)) :
    TakesUp template (Text.utf8Length before)
      (Text.utf8Length before + Text.utf8Length text) (String.ofList text) := by
  have htemplate : template
      = String.ofList before ++ (String.ofList text ++ String.ofList after) := by
    rw [← String.ofList_append, ← String.ofList_append, ← h, String.ofList_toList]
  rw [htemplate, ← Text.utf8ByteSize_ofList, ← Text.utf8ByteSize_ofList]
  exact takesUp_append_append _ _ _

/-- The text before a hole, the hole and the text after it. -/
theorem toList_eq_of_getElem?_holes {template : String} {i : Nat} {h : Hole}
    (hi : (cut template.toList).holes[i]? = some h) :
    template.toList
      = ((cut template.toList).holes.take i).flatMap Hole.chars ++ (h.chars ++
          (((cut template.toList).holes.drop (i + 1)).flatMap Hole.chars
            ++ (cut template.toList).rest)) := by
  obtain ⟨hlt, hget⟩ := List.getElem?_eq_some_iff.mp hi
  have hholes : (cut template.toList).holes
      = (cut template.toList).holes.take i ++ h :: (cut template.toList).holes.drop (i + 1) := by
    rw [← hget, List.getElem_cons_drop, List.take_append_drop]
  have hchars := (chars_cut template.toList).symm
  rw [Cut.chars] at hchars
  conv at hchars => rhs; rw [hholes, List.flatMap_append, List.flatMap_cons]
  rw [List.append_assoc, List.append_assoc] at hchars
  exact hchars

/-! ## Placeholders -/

/-- Name and suffix of a placeholder are parted where the suffix starts, and the text
    between its braces has escapes only. -/
structure Placeholder.IsWellFormed (p : Placeholder) : Prop where
  name_undelimited : ∀ c ∈ p.name.toList, c ≠ ',' ∧ c ≠ ':'
  suffix_delimited : ∀ suffix, p.suffix? = some suffix →
    suffix.toList.head? = some ',' ∨ suffix.toList.head? = some ':'
  name_starts : p.name.toList.head? ≠ some '{'
  inner_evenRuns : EvenRuns '}' (p.name ++ p.suffix?.getD "").toList

namespace Hole

theorem isDelimiter_iff (c : Char) : isDelimiter c = true ↔ c = ',' ∨ c = ':' := by
  rw [isDelimiter, Bool.or_eq_true, beq_iff_eq, beq_iff_eq]

variable (h : Hole) (position offset : Nat)

/-- A suffix that is not there is an empty one. -/
theorem getD_suffix?_placeholder :
    (h.placeholder position offset).suffix?.getD "" = String.ofList h.suffixChars := by
  rw [placeholder]
  cases hsuffix : h.suffixChars with
  | nil => rfl
  | cons c cs => rfl

theorem inner_placeholder :
    (h.placeholder position offset).name ++ (h.placeholder position offset).suffix?.getD ""
      = String.ofList h.inner := by
  rw [h.getD_suffix?_placeholder, ← h.nameChars_append_suffixChars, String.ofList_append]
  rfl

/-- A placeholder is written as in its hole. -/
theorem written_placeholder :
    (h.placeholder position offset).written = String.ofList h.written := by
  refine (congrArg (· ++ "\x7d") String.append_assoc).trans ?_
  rw [h.inner_placeholder, written, String.ofList_append, ← List.singleton_append,
    String.ofList_append]

variable {h} in
/-- The placeholder of a hole with escapes only is well formed. -/
theorem IsEscaped.isWellFormed_placeholder (hescaped : h.IsEscaped) :
    (h.placeholder position offset).IsWellFormed where
  name_undelimited := by
    intro c hc
    have hc : c ∈ h.nameChars := by
      rw [placeholder, String.toList_ofList] at hc
      exact hc
    have hdelimiter : (!isDelimiter c) = true := List.all_eq_true.mp List.all_takeWhile c hc
    rw [Bool.not_eq_true', ← Bool.not_eq_true, isDelimiter_iff] at hdelimiter
    exact not_or.mp hdelimiter
  suffix_delimited := by
    intro suffix hsuffix
    have hchars : suffix.toList = h.suffixChars := by
      have hgetD := h.getD_suffix?_placeholder position offset
      rw [hsuffix] at hgetD
      exact (congrArg String.toList hgetD).trans String.toList_ofList
    rw [hchars]
    cases hhead : h.suffixChars.head? with
    | none =>
        rw [placeholder, List.head?_eq_none_iff.mp hhead] at hsuffix
        exact absurd hsuffix.symm (Option.some_ne_none suffix)
    | some c =>
        have hdelimiter : (!isDelimiter c) = false := by
          have hfirst := List.head?_dropWhile_not (!isDelimiter ·) h.inner
          rw [← suffixChars, hhead] at hfirst
          exact hfirst
        rw [Bool.not_eq_false', isDelimiter_iff] at hdelimiter
        rcases hdelimiter with rfl | rfl
        · exact .inl rfl
        · exact .inr rfl
  name_starts := by
    rw [placeholder, String.toList_ofList, nameChars, List.head?_takeWhile]
    intro hhead
    exact hescaped.inner_starts (Option.eq_some_of_filter_eq_some hhead)
  inner_evenRuns := by
    rw [h.inner_placeholder, String.toList_ofList]
    exact hescaped.inner_evenRuns

end Hole

/-- The text before a placeholder and the one after it, joined over all placeholders. -/
theorem join_zipWith_written (holes : List Hole) (position offset : Nat) :
    String.join
        ((holes.map fun h => String.ofList h.gap).zipWith (fun gap p => gap ++ p.written)
          (placeholdersFrom position offset holes))
      = String.ofList (holes.flatMap Hole.chars) := by
  induction holes generalizing position offset with
  | nil => rfl
  | cons h later ih =>
      rw [List.map_cons, placeholdersFrom, List.zipWith_cons_cons, String.join_cons, ih,
        h.written_placeholder, List.flatMap_cons, Hole.chars, String.ofList_append,
        String.ofList_append]

/-- The byte at which the first `n` placeholders of a template end. -/
def endOfFirst (template : String) (n : Nat) : Nat :=
  ((placeholders template).take n).getLast?.elim 0 Placeholder.stop

/-- The first placeholders end where the text of their holes does. -/
theorem endOfFirst_eq {template : String} {n : Nat}
    (hn : n ≤ (cut template.toList).holes.length) :
    endOfFirst template n
      = Text.utf8Length (((cut template.toList).holes.take n).flatMap Hole.chars) := by
  cases n with
  | zero => rfl
  | succ n =>
      have hget := List.getElem?_eq_getElem (Nat.lt_of_succ_le hn)
      rw [endOfFirst, List.take_add_one, getElem?_placeholders, List.take_add_one, hget]
      show (_ ++ [_]).getLast?.elim 0 Placeholder.stop = _
      rw [List.getLast?_concat, List.flatMap_append]
      show Text.utf8Length _ + Text.utf8Length _ = _
      rw [← Text.utf8Length_append, Option.toList_some, List.flatMap_singleton]

/-- A placeholder and the gap before it stand where the placeholders before it end. -/
theorem exists_hole_of_getElem?_placeholders {template : String} {i : Nat} {p : Placeholder}
    (hp : (placeholders template)[i]? = some p) :
    ∃ h, (cut template.toList).holes[i]? = some h ∧
      p = h.placeholder i (endOfFirst template i) ∧
      TakesUp template (endOfFirst template i) p.first (String.ofList h.gap) ∧
      TakesUp template p.first p.stop p.written := by
  rw [getElem?_placeholders] at hp
  obtain ⟨h, hi, rfl⟩ := Option.map_eq_some_iff.mp hp
  have htext := toList_eq_of_getElem?_holes hi
  have hlt := (List.getElem?_eq_some_iff.mp hi).1
  rw [← endOfFirst_eq (Nat.le_of_lt hlt)]
  refine ⟨h, hi, rfl, ?_, ?_⟩
  · rw [endOfFirst_eq (Nat.le_of_lt hlt)]
    rw [Hole.chars, List.append_assoc] at htext
    exact takesUp_of_toList htext
  · rw [Hole.chars, List.append_assoc, ← List.append_assoc] at htext
    have htakes := takesUp_of_toList htext
    rw [Text.utf8Length_append, ← endOfFirst_eq (Nat.le_of_lt hlt), Nat.add_assoc,
      ← Text.utf8Length_append] at htakes
    rw [h.written_placeholder]
    exact htakes

/-- The rest stands where the last placeholder ends. -/
theorem takesUp_rest (template : String) :
    TakesUp template (endOfFirst template (cut template.toList).holes.length)
      template.utf8ByteSize (String.ofList (cut template.toList).rest) := by
  have htext : template.toList = (cut template.toList).holes.flatMap Hole.chars
      ++ ((cut template.toList).rest ++ []) := by
    rw [List.append_nil]
    exact (chars_cut template.toList).symm
  have htakes := takesUp_of_toList htext
  rw [← Text.utf8Length_append] at htakes
  rw [endOfFirst_eq (Nat.le_refl _), List.take_length, ← Text.utf8Length_toList]
  conv => arg 3; rw [← chars_cut template.toList]
  exact htakes

theorem first_lt_stop_placeholder (h : Hole) (position offset : Nat) :
    (h.placeholder position offset).first < (h.placeholder position offset).stop := by
  show offset + _ < offset + Text.utf8Length (h.gap ++ '{' :: (h.inner ++ ['}']))
  have hpos := Char.utf8Size_pos '{'
  rw [Text.utf8Length_append, Text.utf8Length_cons]
  omega

theorem le_first_of_mem_placeholdersFrom {holes : List Hole} {position offset : Nat}
    {p : Placeholder} (h : p ∈ placeholdersFrom position offset holes) : offset ≤ p.first := by
  induction holes generalizing position offset with
  | nil => exact absurd h List.not_mem_nil
  | cons hole later ih =>
      rcases List.mem_cons.mp h with rfl | hlater
      · exact Nat.le_add_right _ _
      · exact (Nat.le_add_right _ _).trans (ih hlater)

/-- Placeholders stand one after another. -/
theorem pairwise_placeholdersFrom (holes : List Hole) (position offset : Nat) :
    (placeholdersFrom position offset holes).Pairwise (fun p q => p.stop ≤ q.first) := by
  induction holes generalizing position offset with
  | nil => exact .nil
  | cons h later ih => exact .cons (fun q hq => le_first_of_mem_placeholdersFrom hq) (ih _ _)

/-! ## Segments -/

/-- Merging pairs leaves something of every text. -/
theorem mergePairs_ne_nil {b : Char} {cs : List Char} (h : cs ≠ []) : mergePairs b cs ≠ [] := by
  match cs with
  | [] => exact absurd rfl h
  | [x] => exact List.cons_ne_nil x []
  | x :: y :: rest =>
      rw [mergePairs]
      split
      · exact List.cons_ne_nil _ _
      · exact List.cons_ne_nil _ _

theorem unescape_ne_nil {cs : List Char} (h : cs ≠ []) : unescape cs ≠ [] :=
  mergePairs_ne_nil (mergePairs_ne_nil h)

theorem text_ne_empty_of_mem_literalSegment {cs : List Char} {text : String}
    (h : .literal text ∈ literalSegment cs) : text ≠ "" := by
  rw [literalSegment] at h
  split at h
  · exact absurd h List.not_mem_nil
  · next hempty =>
      obtain rfl := Segment.literal.inj (List.mem_singleton.mp h)
      intro htext
      have hnil := String.ofList_eq_empty_iff.mp htext
      exact unescape_ne_nil (mt List.isEmpty_iff.mpr hempty) hnil

theorem text_ne_empty_of_mem_segmentsFrom {rest : List Char} {holes : List Hole}
    {position offset : Nat} {text : String}
    (h : .literal text ∈ segmentsFrom position offset rest holes) : text ≠ "" := by
  induction holes generalizing position offset with
  | nil => exact text_ne_empty_of_mem_literalSegment h
  | cons hole later ih =>
      rcases List.mem_append.mp h with hgap | hlater
      · exact text_ne_empty_of_mem_literalSegment hgap
      · rcases List.mem_cons.mp hlater with heq | hlater
        · exact absurd heq Segment.noConfusion
        · exact ih hlater

/-- Of two segments side by side one is a hole. -/
def Segment.Alternates (s t : Segment) : Prop :=
  s.hole?.isSome = true ∨ t.hole?.isSome = true

theorem isChain_literalSegment (cs : List Char) :
    (literalSegment cs).IsChain Segment.Alternates := by
  rw [literalSegment]
  split
  · exact .nil
  · exact .singleton _

/-- No literal segment follows another. -/
theorem isChain_segmentsFrom (rest : List Char) (holes : List Hole) (position offset : Nat) :
    (segmentsFrom position offset rest holes).IsChain Segment.Alternates := by
  induction holes generalizing position offset with
  | nil => exact isChain_literalSegment rest
  | cons h later ih =>
      rw [segmentsFrom, List.isChain_append, List.isChain_cons]
      refine ⟨isChain_literalSegment h.gap, ⟨fun t _ => .inl rfl, ih _ _⟩, ?_⟩
      intro s _ t ht
      obtain rfl := Option.some.inj ht
      exact .inr rfl

/-! ## Scans -/

/-- **Scanning a text is lossless and well formed**, whatever its braces are.  The
    placeholders are numbered and stand in the text one after another, each as it
    is written; the gaps before them and the rest make up the text with them, and
    have escapes only; the segments have one hole for each placeholder and a text
    only where there is one; and an unterminated scan leaves an opening brace in
    the rest. -/
theorem scan_is_lossless (template : String) :
    (∀ (i : Nat) (p : Placeholder), (placeholders template)[i]? = some p →
      p.position = i ∧ p.first < p.stop ∧ TakesUp template p.first p.stop p.written ∧
        p.IsWellFormed) ∧
    (placeholders template).Pairwise (fun p q => p.stop ≤ q.first) ∧
    (∃ (gaps : List String) (rest : String), gaps.length = (placeholders template).length ∧
      String.join (gaps.zipWith (fun gap p => gap ++ p.written) (placeholders template)) ++ rest
        = template ∧
      (∀ (i : Nat) (gap : String) (p : Placeholder), gaps[i]? = some gap →
        (placeholders template)[i]? = some p →
        TakesUp template (endOfFirst template i) p.first gap ∧ EvenRuns '{' gap.toList) ∧
      TakesUp template (endOfFirst template gaps.length) template.utf8ByteSize rest ∧
      (isMalformed template = true → '{' ∈ rest.toList)) ∧
    (segments template).filterMap Segment.hole? = placeholders template ∧
    (segments template).IsChain Segment.Alternates ∧
    ∀ text, .literal text ∈ segments template → text ≠ "" := by
  have hlength : (placeholders template).length = (cut template.toList).holes.length :=
    length_placeholdersFrom _ _ _
  refine ⟨?_, pairwise_placeholdersFrom _ _ _, ?_, filterMap_hole?_segments template,
    isChain_segmentsFrom _ _ _ _, fun text => text_ne_empty_of_mem_segmentsFrom⟩
  · intro i p hp
    obtain ⟨h, hi, hplaceholder, -, htakes⟩ := exists_hole_of_getElem?_placeholders hp
    refine ⟨position_of_getElem?_placeholders hp, ?_, htakes, ?_⟩
    · rw [hplaceholder]
      exact first_lt_stop_placeholder h _ _
    · rw [hplaceholder]
      exact (Hole.isEscaped_of_mem_holes (List.mem_of_getElem? hi)).isWellFormed_placeholder _ _
  · refine ⟨(cut template.toList).holes.map fun h => String.ofList h.gap,
      String.ofList (cut template.toList).rest, ?_, ?_, ?_, ?_, ?_⟩
    · rw [List.length_map, hlength]
    · rw [placeholders, join_zipWith_written, ← String.ofList_append]
      exact (congrArg String.ofList (chars_cut template.toList)).trans String.ofList_toList
    · intro i gap p hgap hp
      obtain ⟨h, hi, -, htakes, -⟩ := exists_hole_of_getElem?_placeholders hp
      rw [List.getElem?_map, hi] at hgap
      obtain rfl := Option.some.inj hgap
      refine ⟨htakes, ?_⟩
      rw [String.toList_ofList]
      exact (Hole.isEscaped_of_mem_holes (List.mem_of_getElem? hi)).gap_evenRuns
    · rw [List.length_map]
      exact takesUp_rest template
    · intro hmalformed
      rw [isMalformed, Bool.not_eq_true'] at hmalformed
      rw [String.toList_ofList]
      exact mem_rest_of_unterminated hmalformed

end StructuredLog.Template
