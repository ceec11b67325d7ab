import StructuredLog.Proofs.Template.Holes
import StructuredLog.Proofs.Template.Skeleton

/-! # Round trip — reading a skeleton back

    A template that was written from a skeleton reads as the skeleton: its
    placeholders are the slots, each where it was written
    (`placeholders_skeletonText`), and its segments with the holes filled make
    up what the skeleton means (`join_segments_skeletonText`).

    Both are by induction on the pieces.  The fillers since the last slot are
    kept on the way: together they are the text before the next hole. -/

namespace StructuredLog.Text

/-- The length of a text is the size of its encoding. -/
theorem utf8Length_toList (s : String) : utf8Length s.toList = s.utf8ByteSize := by
  have h : ∀ cs : List Char, utf8Length cs = (String.ofList cs).utf8ByteSize := by
    intro cs
    induction cs with
    | nil => rfl
    | cons c cs ih =>
        rw [utf8Length_cons, ih, ← List.singleton_append, String.ofList_append,
          String.utf8ByteSize_append]
        exact congrArg (· + _) String.utf8ByteSize_singleton.symm
  rw [h, String.ofList_toList]

theorem utf8ByteSize_ofList (cs : List Char) : (String.ofList cs).utf8ByteSize = utf8Length cs := by
  rw [← utf8Length_toList, String.toList_ofList]

/-- A part of a text takes up the bytes behind those of what stands before it. -/
theorem extract_append_append (before text after : String) :
    (before ++ (text ++ after)).toByteArray.extract before.utf8ByteSize
        (before.utf8ByteSize + text.utf8ByteSize)
      = text.toByteArray := by
  rw [String.toByteArray_append, String.toByteArray_append, ← String.size_toByteArray,
    ← String.size_toByteArray]
  show ByteArray.extract _ (before.toByteArray.size + 0) _ = _
  rw [ByteArray.extract_append_size_add]
  exact ByteArray.extract_append_eq_left rfl

end StructuredLog.Text

namespace StructuredLog.Template

/-! ## Slots as placeholders -/

/-- A skeleton written out. -/
def skeletonText (pieces : List Piece) : String :=
  String.ofList (pieces.flatMap Piece.chars)

/-- The slots of a skeleton. -/
def slots (pieces : List Piece) : List Slot :=
  pieces.filterMap Piece.slot?

namespace Slot

/-- The slot as written in a template. -/
def written (s : Slot) : String :=
  String.ofList s.chars

/-- The suffix, if there is one. -/
def suffix? (s : Slot) : Option String :=
  if s.suffix = "" then none else some s.suffix

/-- The placeholder that the slot is, the `position`-th of a template and written from
    byte `offset` on. -/
def placeholder (s : Slot) (position offset : Nat) : Placeholder where
  name := s.name
  position := position
  first := offset
  stop := offset + s.written.utf8ByteSize
  suffix? := s.suffix?

/-- What stands before the first delimiter of a slot is its name. -/
theorem takeWhile_inner (s : Slot) :
    s.inner.takeWhile (!Hole.isDelimiter ·) = s.name.toList := by
  rw [inner, List.takeWhile_append_of_pos (List.all_eq_true.mp s.name_undelimited)]
  cases hsuffix : s.suffix.toList with
  | nil => exact List.append_nil _
  | cons c cs =>
      have hsuffix' := s.suffix_delimited
      rw [hsuffix] at hsuffix'
      have hc : Hole.isDelimiter c = true := hsuffix'
      rw [List.takeWhile_cons_of_neg (by rw [hc]; exact Bool.false_ne_true), List.append_nil]

theorem dropWhile_inner (s : Slot) :
    s.inner.dropWhile (!Hole.isDelimiter ·) = s.suffix.toList := by
  have h : s.inner.takeWhile (!Hole.isDelimiter ·) ++ s.inner.dropWhile (!Hole.isDelimiter ·)
      = s.name.toList ++ s.suffix.toList := List.takeWhile_append_dropWhile
  rw [s.takeWhile_inner] at h
  exact List.append_cancel_left h

theorem utf8Length_chars (s : Slot) : Text.utf8Length s.chars = s.written.utf8ByteSize := by
  rw [written, Text.utf8ByteSize_ofList]

/-- A hole cut off at a slot has the slot's name and suffix. -/
theorem placeholder_hole (s : Slot) (gap : List Char) (position offset : Nat) :
    Hole.placeholder ⟨gap, s.inner⟩ position offset
      = s.placeholder position (offset + Text.utf8Length gap) := by
  have hname : Hole.nameChars ⟨gap, s.inner⟩ = s.name.toList := s.takeWhile_inner
  have hsuffix : Hole.suffixChars ⟨gap, s.inner⟩ = s.suffix.toList := s.dropWhile_inner
  have hchars : Hole.chars ⟨gap, s.inner⟩ = gap ++ s.chars := rfl
  rw [Hole.placeholder, hname, hsuffix, hchars, Text.utf8Length_append, s.utf8Length_chars,
    ← Nat.add_assoc, String.ofList_toList, String.ofList_toList, placeholder, suffix?]
  congr 1
  by_cases h : s.suffix = ""
  · simp [h]
  · simp [h]

end Slot

/-- The placeholders of a skeleton, counted and located from the given start. -/
def slotsFrom (position offset : Nat) : List Piece → List Placeholder
  | [] => []
  | .filler f :: pieces => slotsFrom position (offset + Text.utf8Length f.chars) pieces
  | .slot s :: pieces =>
    s.placeholder position offset ::
      slotsFrom (position + 1) (offset + s.written.utf8ByteSize) pieces

theorem length_slotsFrom (pieces : List Piece) (position offset : Nat) :
    (slotsFrom position offset pieces).length = (slots pieces).length := by
  induction pieces generalizing position offset with
  | nil => rfl
  | cons piece pieces ih =>
      cases piece with
      | filler f => exact ih _ _
      | slot s => exact congrArg (· + 1) (ih _ _)

/-- A slot is numbered by the slots before it, and located by the text before it. -/
theorem getElem?_slotsFrom (before : List Piece) (s : Slot) (later : List Piece)
    (position offset : Nat) :
    (slotsFrom position offset (before ++ .slot s :: later))[(slots before).length]?
      = some (s.placeholder (position + (slots before).length)
          (offset + Text.utf8Length (before.flatMap Piece.chars))) := by
  induction before generalizing position offset with
  | nil => rfl
  | cons piece before ih =>
      rw [List.flatMap_cons, Text.utf8Length_append, ← Nat.add_assoc]
      cases piece with
      | filler f => exact ih _ _
      | slot s' =>
          have hlength : position + (slots (.slot s' :: before)).length
              = position + 1 + (slots before).length := by
            show position + ((slots before).length + 1) = _
            omega
          rw [hlength]
          show _ = some (s.placeholder _ (offset + Text.utf8Length s'.chars + _))
          rw [s'.utf8Length_chars]
          exact ih _ _

/-- A filler after others is one of the fillers before the next hole. -/
theorem flatMap_chars_filler (fillers : List Filler) (f : Filler) (pieces : List Piece) :
    fillers.flatMap Filler.chars ++ (Piece.filler f :: pieces).flatMap Piece.chars
      = (fillers ++ [f]).flatMap Filler.chars ++ pieces.flatMap Piece.chars := by
  rw [List.flatMap_append, List.flatMap_singleton, List.flatMap_cons, List.append_assoc]
  rfl

/-- The fillers since the last slot only move the placeholders behind them. -/
theorem placeholdersFrom_cut (fillers : List Filler) (pieces : List Piece) (position offset : Nat) :
    placeholdersFrom position offset
        (cut (fillers.flatMap Filler.chars ++ pieces.flatMap Piece.chars)).holes
      = slotsFrom position (offset + Text.utf8Length (fillers.flatMap Filler.chars)) pieces := by
  induction pieces generalizing fillers position offset with
  | nil =>
      rw [List.flatMap_nil, List.append_nil, (cut_fillers fillers).1]
      rfl
  | cons piece pieces ih =>
      cases piece with
      | filler f =>
          rw [flatMap_chars_filler, ih, List.flatMap_append, List.flatMap_singleton,
            Text.utf8Length_append, ← Nat.add_assoc]
          rfl
      | slot s =>
          -- the next gap starts behind the slot, with no fillers yet
          have hlater := ih [] (position + 1)
            (offset + Text.utf8Length (fillers.flatMap Filler.chars ++ s.chars))
          rw [Text.utf8Length_append, s.utf8Length_chars, ← Nat.add_assoc] at hlater
          rw [List.flatMap_cons]
          show placeholdersFrom position offset (cut (_ ++ (s.chars ++ _))).holes = _
          rw [cut_slot, placeholdersFrom, s.placeholder_hole]
          show _ :: placeholdersFrom _ (offset + Text.utf8Length (_ ++ s.chars)) _ = _
          rw [Text.utf8Length_append, s.utf8Length_chars, ← Nat.add_assoc]
          exact congrArg (_ :: ·) hlater

/-- **The placeholders of a skeleton are its slots.** -/
theorem placeholders_skeletonText (pieces : List Piece) :
    placeholders (skeletonText pieces) = slotsFrom 0 0 pieces := by
  rw [placeholders, skeletonText, String.toList_ofList]
  exact placeholdersFrom_cut [] pieces 0 0

/-- A slot is where the text before it ends. -/
theorem extract_skeletonText (before : List Piece) (s : Slot) (later : List Piece) :
    (skeletonText (before ++ .slot s :: later)).toByteArray.extract
        (skeletonText before).utf8ByteSize
        ((skeletonText before).utf8ByteSize + s.written.utf8ByteSize)
      = s.written.toByteArray := by
  have htext : skeletonText (before ++ .slot s :: later)
      = skeletonText before ++ (s.written ++ skeletonText later) := by
    rw [skeletonText, List.flatMap_append, List.flatMap_cons, String.ofList_append,
      String.ofList_append]
    rfl
  rw [htext]
  exact Text.extract_append_append _ _ _

/-! ## The meaning of a skeleton -/

/-- The text that a filler stands for. -/
def Filler.meaning : Filler → List Char
  | .text s _ => s.toList
  | .escape brace => [brace.char]

/-- What a skeleton means from the given slot on, when its slots are filled by number. -/
def meaningFrom (fill : Nat → String) (position : Nat) : List Piece → String
  | [] => ""
  | .filler f :: pieces => String.ofList f.meaning ++ meaningFrom fill position pieces
  | .slot _ :: pieces => fill position ++ meaningFrom fill (position + 1) pieces

/-- The text of a segment when the holes are filled by number. -/
def Segment.textWith (fill : Nat → String) : Segment → String
  | .literal text => text
  | .hole p => fill p.position

theorem mergePairs_pair (b : Char) (rest : List Char) :
    mergePairs b (b :: b :: rest) = b :: mergePairs b rest := by
  rw [mergePairs, if_pos ⟨rfl, rfl⟩]

theorem mergePairs_cons_of_ne {b x : Char} (h : x ≠ b) (rest : List Char) :
    mergePairs b (x :: rest) = x :: mergePairs b rest := by
  cases rest with
  | nil => rfl
  | cons y rest =>
      rw [mergePairs, if_neg]
      rintro ⟨hx, -⟩
      exact h hx

theorem mergePairs_append_of_not_mem {b : Char} {cs : List Char} (h : b ∉ cs) (rest : List Char) :
    mergePairs b (cs ++ rest) = cs ++ mergePairs b rest := by
  induction cs with
  | nil => rfl
  | cons x cs ih =>
      obtain ⟨hx, hcs⟩ := not_or.mp (mt List.mem_cons.mpr h)
      rw [List.cons_append, mergePairs_cons_of_ne (Ne.symm hx), ih hcs, List.cons_append]

/-- The filler with its opening braces halved. -/
def Filler.halved : Filler → List Char
  | .text s _ => s.toList
  | .escape .opening => ['{']
  | .escape .closing => ['}', '}']

theorem mergePairs_opening_fillers (fillers : List Filler) :
    mergePairs '{' (fillers.flatMap Filler.chars) = fillers.flatMap Filler.halved := by
  induction fillers with
  | nil => rfl
  | cons f fillers ih =>
      rw [List.flatMap_cons, List.flatMap_cons, ← ih]
      cases f with
      | text s plain => exact mergePairs_append_of_not_mem (plain .opening) _
      | escape brace =>
          cases brace with
          | opening => exact mergePairs_pair '{' _
          | closing => exact mergePairs_append_of_not_mem (by decide) _

/-- Halving the closing braces after the opening ones leaves what the fillers mean. -/
theorem mergePairs_closing_fillers (fillers : List Filler) :
    mergePairs '}' (fillers.flatMap Filler.halved) = fillers.flatMap Filler.meaning := by
  induction fillers with
  | nil => rfl
  | cons f fillers ih =>
      rw [List.flatMap_cons, List.flatMap_cons, ← ih]
      cases f with
      | text s plain => exact mergePairs_append_of_not_mem (plain .closing) _
      | escape brace =>
          cases brace with
          | opening => exact mergePairs_cons_of_ne (by decide) _
          | closing => exact mergePairs_pair '}' _

/-- Fillers unescape to what they mean. -/
theorem unescape_fillers (fillers : List Filler) :
    unescape (fillers.flatMap Filler.chars) = fillers.flatMap Filler.meaning := by
  rw [unescape, mergePairs_opening_fillers, mergePairs_closing_fillers]

theorem join_literalSegment (fill : Nat → String) (cs : List Char) :
    String.join ((literalSegment cs).map (Segment.textWith fill)) = String.ofList (unescape cs) := by
  cases cs with
  | nil => rfl
  | cons c cs =>
      show String.join [String.ofList (unescape (c :: cs))] = _
      rw [String.join_cons, String.join_nil, String.append_empty]

/-- The fillers since the last slot are the start of the filled text. -/
theorem join_segmentsFrom_cut (fill : Nat → String) (fillers : List Filler) (pieces : List Piece)
    (position offset : Nat) {c : Cut}
    (hc : cut (fillers.flatMap Filler.chars ++ pieces.flatMap Piece.chars) = c) :
    String.join ((segmentsFrom position offset c.rest c.holes).map (Segment.textWith fill))
      = String.ofList (fillers.flatMap Filler.meaning) ++ meaningFrom fill position pieces := by
  induction pieces generalizing fillers position offset c with
  | nil =>
      rw [List.flatMap_nil, List.append_nil] at hc
      rw [← hc, (cut_fillers fillers).1, (cut_fillers fillers).2]
      show String.join ((literalSegment _).map _) = _ ++ ""
      rw [join_literalSegment, unescape_fillers, String.append_empty]
  | cons piece pieces ih =>
      cases piece with
      | filler f =>
          rw [flatMap_chars_filler] at hc
          rw [ih _ _ _ hc, List.flatMap_append, List.flatMap_singleton, String.ofList_append,
            String.append_assoc]
          rfl
      | slot s =>
          have hlater := ih [] (position + 1)
            (offset + Text.utf8Length (Hole.chars ⟨fillers.flatMap Filler.chars, s.inner⟩)) rfl
          rw [← hc, List.flatMap_cons]
          show String.join (List.map _ (segmentsFrom _ _ (cut (_ ++ (s.chars ++ _))).rest
            (cut (_ ++ (s.chars ++ _))).holes)) = _
          rw [cut_slot, segmentsFrom, List.map_append, String.join_append, join_literalSegment,
            unescape_fillers, List.map_cons, String.join_cons]
          exact congrArg (_ ++ ·) (congrArg (fill position ++ ·) (hlater.trans String.empty_append))

/-- **Filling the segments of a skeleton makes up its meaning.** -/
theorem join_segments_skeletonText (fill : Nat → String) (pieces : List Piece) :
    String.join ((segments (skeletonText pieces)).map (Segment.textWith fill))
      = meaningFrom fill 0 pieces := by
  rw [segments, skeletonText, String.toList_ofList]
  exact (join_segmentsFrom_cut fill [] pieces 0 0 rfl).trans String.empty_append

/-- **A skeleton reads back as it was written.**  Its placeholders are its slots, each
    with its name, suffix, number and bytes; they are the holes among its
    segments; and with the holes filled the segments make up its meaning. -/
theorem skeleton_round_trip (pieces : List Piece) :
    (placeholders (skeletonText pieces)).length = (slots pieces).length ∧
      (∀ before s later, pieces = before ++ .slot s :: later →
        ∃ p, (placeholders (skeletonText pieces))[(slots before).length]? = some p ∧
          p = s.placeholder (slots before).length (skeletonText before).utf8ByteSize ∧
          (skeletonText pieces).toByteArray.extract p.first p.stop = s.written.toByteArray) ∧
      (segments (skeletonText pieces)).filterMap Segment.hole?
        = placeholders (skeletonText pieces) ∧
      ∀ fill : Nat → String,
        String.join ((segments (skeletonText pieces)).map (Segment.textWith fill))
          = meaningFrom fill 0 pieces := by
  refine ⟨?_, ?_, filterMap_hole?_segments _, fun fill => join_segments_skeletonText fill pieces⟩
  · rw [placeholders_skeletonText, length_slotsFrom]
  · rintro before s later rfl
    refine ⟨_, ?_, rfl, extract_skeletonText before s later⟩
    have hbefore : Text.utf8Length (before.flatMap Piece.chars)
        = (skeletonText before).utf8ByteSize := by
      rw [← Text.utf8Length_toList, skeletonText, String.toList_ofList]
    rw [placeholders_skeletonText, getElem?_slotsFrom, Nat.zero_add, Nat.zero_add, hbefore]

instance (s : String) : Decidable (Plain s) :=
  decidable_of_iff ('{' ∉ s.toList ∧ '}' ∉ s.toList)
    ⟨fun h brace => brace.casesOn h.1 h.2, fun h => ⟨h .opening, h .closing⟩⟩

/-- An aligned placeholder. -/
def alignedSlot : Slot where
  name := "Argument"
  suffix := ",8"
  name_plain := by decide +kernel
  name_undelimited := by decide +kernel
  suffix_plain := by decide +kernel
  suffix_delimited := by decide +kernel

/-- Escapes on both sides of a placeholder make runs of three. -/
def escapedPieces : List Piece :=
  [.filler (.escape .opening), .filler (.text "prefix" (by decide +kernel)), .filler (.escape .opening),
    .slot alignedSlot, .filler (.escape .closing), .filler (.text "suffix" (by decide +kernel)),
    .filler (.escape .closing)]

/-- Among runs of three braces the placeholder is found where its skeleton puts it. -/
theorem skeleton_round_trip_escapedPieces :
    skeletonText escapedPieces
        = "\x7b\x7bprefix\x7b\x7b\x7bArgument,8\x7d\x7d\x7dsuffix\x7d\x7d" ∧
      (placeholders (skeletonText escapedPieces)).length = 1 ∧
      (∃ p, (placeholders (skeletonText escapedPieces))[0]? = some p ∧
        p = ⟨"Argument", 0, 10, 22, some ",8"⟩ ∧
        (skeletonText escapedPieces).toByteArray.extract p.first p.stop
          = alignedSlot.written.toByteArray) ∧
      ∀ fill : Nat → String,
        String.join ((segments (skeletonText escapedPieces)).map (Segment.textWith fill))
          = meaningFrom fill 0 escapedPieces := by
  obtain ⟨hlength, hslots, -, hfill⟩ := skeleton_round_trip escapedPieces
  obtain ⟨p, hp, hplaceholder, hbytes⟩ :=
    hslots (escapedPieces.take 3) alignedSlot (escapedPieces.drop 4) rfl
  exact ⟨by decide +kernel, hlength, ⟨p, hp, hplaceholder.trans (by decide +kernel), hbytes⟩, hfill⟩

end StructuredLog.Template
