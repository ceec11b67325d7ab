import StructuredLog.Message.Rendering
import StructuredLog.Proofs.Template.Alignment

/-! # Holes — the placeholders among the segments of a template

    Placeholders are numbered from 0 in the order of the template, and the
    holes among its segments are exactly its placeholders.  So a message
    depends on nothing but what fills the placeholders
    (`renderSegments_congr`), and unless a filled one asks for too much room it
    is the text of the segments (`renderSegments_eq_ok_iff`). -/

namespace StructuredLog.Template

/-- The placeholder of a hole. -/
def Segment.hole? : Segment → Option Placeholder
  | .literal _ => none
  | .hole p => some p

theorem hole?_of_mem_literalSegment {cs : List Char} {s : Segment}
    (h : s ∈ literalSegment cs) : s.hole? = none := by
  rw [literalSegment] at h
  split at h
  · exact nomatch h
  · rw [List.mem_singleton.mp h]
    rfl

theorem filterMap_hole?_literalSegment (cs : List Char) :
    (literalSegment cs).filterMap Segment.hole? = [] :=
  List.filterMap_eq_nil_iff.mpr fun _ hs => hole?_of_mem_literalSegment hs

theorem filterMap_hole?_segmentsFrom (rest : List Char) (holes : List Hole)
    (position offset : Nat) :
    (segmentsFrom position offset rest holes).filterMap Segment.hole?
      = placeholdersFrom position offset holes := by
  induction holes generalizing position offset with
  | nil => exact filterMap_hole?_literalSegment rest
  | cons h later ih =>
      rw [segmentsFrom, List.filterMap_append, filterMap_hole?_literalSegment, List.nil_append]
      exact congrArg (h.placeholder position offset :: ·) (ih _ _)

/-- The holes among the segments are the placeholders, in order. -/
theorem filterMap_hole?_segments (template : String) :
    (segments template).filterMap Segment.hole? = placeholders template :=
  filterMap_hole?_segmentsFrom _ _ 0 0

/-- A placeholder is numbered by the holes before it, and located by their text. -/
theorem getElem?_placeholdersFrom (holes : List Hole) (position offset i : Nat) :
    (placeholdersFrom position offset holes)[i]?
      = holes[i]?.map fun h =>
          h.placeholder (position + i)
            (offset + Text.utf8Length ((holes.take i).flatMap Hole.chars)) := by
  induction holes generalizing position offset i with
  | nil => rfl
  | cons hole later ih =>
      cases i with
      | zero => rfl
      | succ i =>
          have hposition : position + (i + 1) = position + 1 + i := by omega
          rw [hposition, List.take_succ_cons, List.flatMap_cons, Text.utf8Length_append,
            ← Nat.add_assoc]
          exact ih _ _ i

theorem getElem?_placeholders (template : String) (i : Nat) :
    (placeholders template)[i]?
      = (cut template.toList).holes[i]?.map fun h =>
          h.placeholder i
            (Text.utf8Length (((cut template.toList).holes.take i).flatMap Hole.chars)) := by
  rw [placeholders, getElem?_placeholdersFrom]
  simp only [Nat.zero_add]

theorem position_of_getElem?_placeholders {template : String} {i : Nat} {p : Placeholder}
    (h : (placeholders template)[i]? = some p) : p.position = i := by
  rw [getElem?_placeholders] at h
  obtain ⟨hole, -, rfl⟩ := Option.map_eq_some_iff.mp h
  rfl

theorem getElem?_placeholders_position {template : String} {p : Placeholder}
    (hp : p ∈ placeholders template) : (placeholders template)[p.position]? = some p := by
  obtain ⟨i, hi⟩ := List.mem_iff_getElem?.mp hp
  rw [position_of_getElem?_placeholders hi]
  exact hi

theorem getElem?_names_position {template : String} {p : Placeholder}
    (hp : p ∈ placeholders template) : (names template)[p.position]? = some p.name := by
  rw [names, List.getElem?_map, getElem?_placeholders_position hp]
  rfl

theorem mem_names_of_mem {template : String} {p : Placeholder}
    (hp : p ∈ placeholders template) : p.name ∈ names template :=
  List.mem_map_of_mem hp

@[simp] theorem length_names (template : String) :
    (names template).length = (placeholders template).length :=
  List.length_map _

end StructuredLog.Template

namespace StructuredLog

open Template

/-- A message depends only on what fills the holes of its segments. -/
theorem renderSegments_congr_of_holes {f g : Placeholder → Option String}
    {segments : List Segment}
    (h : ∀ p ∈ segments.filterMap Segment.hole?, f p = g p) :
    renderSegments f segments = renderSegments g segments := by
  induction segments with
  | nil => rfl
  | cons s rest ih =>
      cases s with
      | literal text =>
          show (renderSegments f rest).map _ = (renderSegments g rest).map _
          rw [ih h]
      | hole p =>
          have hp : f p = g p := h p (List.mem_cons_self ..)
          have hrest := ih fun q hq => h q (List.mem_cons_of_mem _ hq)
          rw [renderSegments, renderSegments, hp, hrest]

/-- The message of a template is fixed by what fills its placeholders. -/
theorem renderSegments_congr {template : String} {f g : Placeholder → Option String}
    (h : ∀ p ∈ placeholders template, f p = g p) :
    renderSegments f (segments template) = renderSegments g (segments template) :=
  renderSegments_congr_of_holes (by rwa [filterMap_hole?_segments])

/-! ## Texts -/

/-- The text of a segment when a text of its own stands in for each hole. -/
def Template.Segment.replaced (shown : Placeholder → String) : Segment → String
  | .literal text => text
  | .hole p => shown p

/-- What stands in for a placeholder: the text that fills it, padded, or else the
    placeholder as written. -/
def Template.Placeholder.filled (p : Placeholder) (filling? : Option String) : String :=
  filling?.elim p.written p.fit

variable {fill : Placeholder → Option String}

/-- Where no filled hole is too wide, a message has the text of its segments. -/
theorem renderSegments_eq_ok {segments : List Segment}
    (h : ∀ p ∈ segments.filterMap Segment.hole?, (fill p).isSome = true → p.isTooWide = false) :
    renderSegments fill segments
      = .ok (String.join (segments.map (Segment.replaced fun p => p.filled (fill p)))) := by
  induction segments with
  | nil => rfl
  | cons s rest ih =>
      rw [List.map_cons, String.join_cons]
      cases s with
      | literal text =>
          show (renderSegments fill rest).map _ = _
          rw [ih h]
          rfl
      | hole p =>
          have hrest := ih fun q hq => h q (List.mem_cons_of_mem _ hq)
          have hp := h p List.mem_cons_self
          rw [renderSegments, hrest]
          cases hfill : fill p with
          | none => rw [Segment.replaced, hfill]; rfl
          | some text =>
              simp only [hp (hfill ▸ rfl), Segment.replaced, hfill]
              rfl

/-- A filled hole that is too wide refuses the whole message. -/
theorem renderSegments_eq_error {segments : List Segment} {p : Placeholder}
    (hp : p ∈ segments.filterMap Segment.hole?) (hfill : (fill p).isSome = true)
    (hwide : p.isTooWide = true) : renderSegments fill segments = .error .widthOutOfRange := by
  induction segments with
  | nil => exact absurd hp List.not_mem_nil
  | cons s rest ih =>
      cases s with
      | literal text =>
          show (renderSegments fill rest).map _ = _
          rw [ih hp]
          rfl
      | hole q =>
          rw [renderSegments]
          rcases List.mem_cons.mp hp with rfl | hrest
          · obtain ⟨text, htext⟩ := Option.isSome_iff_exists.mp hfill
            simp only [htext, hwide, if_true]
          · -- an earlier hole may refuse it first, in the same way
            rw [ih hrest]
            cases fill q with
            | none => rfl
            | some text =>
                show (if q.isTooWide then _ else _) = _
                split
                · rfl
                · rfl

/-- **A message has a text unless a filled hole is too wide**, and it is then the
    literals with a text in place of each hole. -/
theorem renderSegments_eq_ok_iff {template text : String} :
    renderSegments fill (segments template) = .ok text ↔
      (∀ p ∈ placeholders template, (fill p).isSome = true → p.isTooWide = false) ∧
        text = String.join
          ((segments template).map (Segment.replaced fun p => p.filled (fill p))) := by
  by_cases hwidths : ∀ p ∈ placeholders template, (fill p).isSome = true → p.isTooWide = false
  · rw [renderSegments_eq_ok (by rwa [filterMap_hole?_segments]), and_iff_right hwidths,
      Except.ok.injEq, eq_comm]
  · refine iff_of_false ?_ fun h => hwidths h.1
    intro htext
    refine hwidths ?_
    intro p hp hfill
    cases hwide : p.isTooWide with
    | false => rfl
    | true =>
        rw [renderSegments_eq_error (by rwa [filterMap_hole?_segments]) hfill hwide] at htext
        cases htext

/-- A template fails exactly for a placeholder that is filled and asks for too wide an alignment. -/
theorem renderSegments_eq_error_iff {template : String} {e : RenderingError} :
    renderSegments fill (segments template) = .error e ↔
      ∃ p ∈ placeholders template, (fill p).isSome = true ∧ p.isTooWide = true := by
  constructor
  · intro herror
    refine Classical.byContradiction fun hnone => ?_
    have hwidths : ∀ p ∈ placeholders template, (fill p).isSome = true → p.isTooWide = false :=
      fun p hp hfilled => Bool.eq_false_iff.mpr fun hwide => hnone ⟨p, hp, hfilled, hwide⟩
    have htext := renderSegments_eq_ok_iff.mpr ⟨hwidths, rfl⟩
    rw [herror] at htext
    cases htext
  · rintro ⟨p, hp, hfilled, hwide⟩
    cases e
    exact renderSegments_eq_error (by rwa [filterMap_hole?_segments]) hfilled hwide

/-- **A message has no text exactly if a filled placeholder asks for a width above 65535**
    that is not ignored. -/
theorem renderSegments_refused_iff {template : String} :
    renderSegments fill (segments template) = .error .widthOutOfRange ↔
      ∃ p ∈ placeholders template, (fill p).isSome = true ∧
        ∃ n, p.AsksFor n ∧ 65535 < n.natAbs ∧ n.natAbs < 1000000 := by
  rw [renderSegments_eq_error_iff]
  simp only [Placeholder.isTooWide_iff]
  exact Iff.rfl

end StructuredLog
