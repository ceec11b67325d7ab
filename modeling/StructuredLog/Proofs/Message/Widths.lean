import StructuredLog.Proofs.Message.Filling

/-! # Widths — which messages there are, and how they are aligned

    A formatter and a field list write messages in the same way and differ in
    the value that fills a placeholder.  Whatever it is, it stands in the
    message with its whole text, padded as the placeholder's suffix says; a
    suffix that does not parse, or asks for a million characters or more, is
    ignored (`messages_align_values`).

    The only messages without a text are those in which a filled placeholder
    asks for more than 65535 characters and less than a million: such a suffix
    is not ignored, and cannot be served (`unserved_width_refuses_message`). -/

namespace StructuredLog

open Template

/-- The message is that of the template with its placeholders filled from the source: it
    has a text unless a filled placeholder asks for a width that cannot be served, and
    in the text each value is aligned. -/
structure Aligns (template : String) (source : Placeholder → Option Value)
    (message : Rendering) : Prop where
  refused_iff : message = .error .widthOutOfRange ↔
    ∃ p ∈ placeholders template, (source p).isSome = true ∧
      ∃ n, p.AsksFor n ∧ 65535 < n.natAbs ∧ n.natAbs < 1000000
  text_eq : ∀ text, message = .ok text → ∃ shown : Placeholder → String,
    text = String.join ((segments template).map (Segment.replaced shown)) ∧
      ∀ p ∈ placeholders template,
        (source p = none → shown p = p.written) ∧
        ∀ v, source p = some v →
          (∀ n, p.AsksFor n → n.natAbs < 1000000 → IsAligned n v.render (shown p)) ∧
          ((∀ n, p.AsksFor n → 1000000 ≤ n.natAbs) → shown p = v.render)

/-- Whatever fills the placeholders is aligned. -/
theorem aligns_renderSegments (template : String) (source : Placeholder → Option Value) :
    Aligns template source
      (renderSegments (fun p => (source p).map Value.render) (segments template)) where
  refused_iff := by
    rw [renderSegments_refused_iff]
    simp only [Option.isSome_map]
  text_eq := by
    intro text htext
    obtain ⟨-, hjoin⟩ := renderSegments_eq_ok_iff.mp htext
    refine ⟨_, hjoin, ?_⟩
    intro p hp
    constructor
    · intro hnone
      rw [hnone]
      rfl
    · intro v hv
      rw [hv]
      exact ⟨fun n hasks hlimit => Placeholder.isAligned_fit hasks hlimit v.render,
        fun hignored => Placeholder.fit_eq_self hignored v.render⟩

/-- **Values are aligned in messages**, in those of formatters with the right number of
    arguments, which fill every placeholder, and in those of field lists; and these
    messages are there unless a filled placeholder asks for a width above 65535 that is
    not ignored. -/
theorem messages_align_values (f : Formatter) (arguments : List Value) (list : FieldList)
    (hcount : arguments.length = f.arity) :
    (∀ p ∈ placeholders f.template, (arguments[p.position]?).isSome = true) ∧
    (∃ message, f.format arguments = .ok message ∧
      Aligns f.template (fun p => arguments[p.position]?) message) ∧
    Aligns list.template (fun p => list.fields.lookup p.name) list.message := by
  refine ⟨?_, ⟨_, format_eq_ok hcount, aligns_renderSegments f.template _⟩,
    aligns_renderSegments list.template _⟩
  intro p hp
  have hlt := (List.getElem?_eq_some_iff.mp (getElem?_placeholders_position hp)).1
  rw [List.getElem?_eq_getElem (hcount.symm ▸ hlt)]
  rfl

/-- A row of a table whose last width is ignored. -/
def tableRow : Formatter where
  template := "\x7bcity,-8\x7d\x7bcount, +4 :d\x7d\x7bnote,1000000\x7d"
  length_le := by decide +kernel

/-- The same row of named fields, one of which is missing. -/
def tableFields : FieldList where
  fields := [("city", .text "Zürich"), ("note", .text "!")]
  template := tableRow.template

/-- The row is aligned to both sides, its last width is ignored, and a missing field stays as
    written. -/
theorem messages_align_values_tableRow :
    tableRow.format [.text "Zürich", .int 12, .text "!"] = .ok (.ok "Zürich    12!") ∧
      (∃ shown : Placeholder → String,
        "Zürich    12!" = String.join ((segments tableRow.template).map (Segment.replaced shown)) ∧
        IsAligned (-8) "Zürich" (shown ⟨"city", 0, 0, 9, some ",-8"⟩) ∧
        IsAligned 4 "12" (shown ⟨"count", 1, 9, 23, some ", +4 :d"⟩) ∧
        shown ⟨"note", 2, 23, 37, some ",1000000"⟩ = "!") ∧
      ∃ shown : Placeholder → String,
        "Zürich  \x7bcount, +4 :d\x7d!"
          = String.join ((segments tableRow.template).map (Segment.replaced shown)) ∧
        shown ⟨"count", 1, 9, 23, some ", +4 :d"⟩ = "\x7bcount, +4 :d\x7d" := by
  have htext : tableRow.format [.text "Zürich", .int 12, .text "!"]
      = .ok (.ok "Zürich    12!") := by
    decide +kernel
  have hfields : tableFields.message = .ok "Zürich  \x7bcount, +4 :d\x7d!" := by
    decide +kernel
  obtain ⟨-, ⟨message, hmessage, haligns⟩, hlist⟩ :=
    messages_align_values tableRow [.text "Zürich", .int 12, .text "!"] tableFields
      (by decide +kernel)
  obtain rfl := Except.ok.inj (htext.symm.trans hmessage)
  obtain ⟨shown, hjoin, hshown⟩ := haligns.text_eq _ rfl
  obtain ⟨named, hnamed, hleft⟩ := hlist.text_eq _ hfields
  have hasks : ∀ (p : Placeholder) (n : Int), p.alignment? = some n → p.AsksFor n :=
    fun p n h => (Placeholder.alignment?_eq_some_iff.mp h).1
  refine ⟨htext, ⟨shown, hjoin, ?_, ?_, ?_⟩, named, hnamed, ?_⟩
  · exact ((hshown _ (by decide +kernel)).2 (.text "Zürich") rfl).1 (-8)
      (hasks _ _ (by decide +kernel)) (by decide)
  · exact ((hshown _ (by decide +kernel)).2 (.int 12) rfl).1 4
      (hasks _ _ (by decide +kernel)) (by decide)
  · refine ((hshown _ (by decide +kernel)).2 (.text "!") rfl).2 ?_
    intro n hmillion
    refine Nat.not_lt.mp fun hlimit => ?_
    have hsome := Placeholder.alignment?_eq_some_iff.mpr ⟨hmillion, hlimit⟩
    have hnone : Placeholder.alignment? ⟨"note", 2, 23, 37, some ",1000000"⟩ = none := by
      decide +kernel
    exact absurd (hsome.symm.trans hnone) (Option.some_ne_none n)
  · exact ((hleft _ (by decide +kernel)).1 (by decide +kernel)).trans (by decide +kernel)

/-- A formatter of a column that is wider than can be served. -/
def wideColumn : Formatter where
  template := "\x7ba,65536\x7d"
  length_le := by decide +kernel

/-- A suffix that asks for less than a million characters can leave a value without any
    text, by position and among fields. -/
theorem unserved_width_refuses_message :
    ∃ p ∈ placeholders wideColumn.template, ∃ n : Int, p.AsksFor n ∧ n.natAbs < 1000000 ∧
      wideColumn.format [.text "x"] = .ok (.error .widthOutOfRange) ∧
      (FieldList.mk [("a", .text "x")] wideColumn.template).message
        = .error .widthOutOfRange := by
  refine ⟨⟨"a", 0, 0, 9, some ",65536"⟩, by decide +kernel, 65536, ?_⟩
  obtain ⟨hasks, hlimit⟩ := Placeholder.alignment?_eq_some_iff.mp
    (show Placeholder.alignment? ⟨"a", 0, 0, 9, some ",65536"⟩ = some 65536 by decide +kernel)
  exact ⟨hasks, hlimit, by decide +kernel, by decide +kernel⟩

end StructuredLog
