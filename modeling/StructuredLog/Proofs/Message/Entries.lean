import StructuredLog.Proofs.Message.FieldMessages
import StructuredLog.Proofs.Template.Scanning

/-! # Entries — a list of fields against the layout it is built from

    A layout is drawn up when a method is generated, and a list of fields when it
    is called; each ends with the raw template on its own account.  A list is
    built exactly from one value for each regular argument (`ofLayout_eq_ok_iff`),
    and then the two agree index by index (`layout_and_list_agree`).

    A message leaves the raw template out when it looks for fields.  It need not:
    the brace that opens a placeholder is the last of its run, so no placeholder
    has a name that starts with one (`ne_rawTemplateName_of_mem`), and a search
    through all entries finds the same (`lookup_fields_eq_find?`). -/

namespace StructuredLog

open Template

/-! ## Indices -/

/-- There is no field behind the raw template. -/
theorem FieldLayout.get_eq_error_iff {layout : FieldLayout} {i : Nat} {e : FieldOutOfRange} :
    layout.get i = .error e ↔
      layout.parameterFields.length < i ∧ e = ⟨i, layout.parameterFields.length + 1⟩ := by
  have hnone : layout.fields[i]? = none ↔ layout.parameterFields.length < i := by
    rw [List.getElem?_eq_none_iff, layout.length_fields, size, Nat.succ_le_iff]
  rw [← hnone, get, size]
  cases hfield : layout.fields[i]? with
  | none => simp [eq_comm]
  | some field => simp

namespace FieldList

variable {list : FieldList} {i : Nat}

/-- There is no entry behind the raw template. -/
theorem get_eq_error_iff {e : FieldOutOfRange} :
    list.get i = .error e ↔
      list.fields.length < i ∧ e = ⟨i, list.fields.length + 1⟩ := by
  have hnone : list.entries[i]? = none ↔ list.fields.length < i := by
    rw [List.getElem?_eq_none_iff, list.length_entries, size, Nat.succ_le_iff]
  rw [← hnone, get, size]
  cases hentry : list.entries[i]? with
  | none => simp [eq_comm]
  | some entry => simp

theorem get_eq_ok_iff {entry : String × Value} :
    list.get i = .ok entry ↔ list.entries[i]? = some entry := by
  rw [get]
  cases hentry : list.entries[i]? with
  | none => simp
  | some other => simp

/-- The fields come first. -/
theorem get_of_getElem?_fields {entry : String × Value} (h : list.fields[i]? = some entry) :
    list.get i = .ok entry := by
  rw [get_eq_ok_iff, entries, List.getElem?_append_left (List.getElem?_eq_some_iff.mp h).1, h]

/-- The raw template comes last. -/
theorem get_length_fields (list : FieldList) :
    list.get list.fields.length = .ok (rawTemplateName, .text list.template) := by
  rw [get_eq_ok_iff, entries, List.getElem?_concat_length]

/-- An entry of another name than the raw template's is a field. -/
theorem lt_length_fields_of_get {entry : String × Value} (h : list.get i = .ok entry)
    (hname : entry.1 ≠ rawTemplateName) : i < list.fields.length := by
  rw [get_eq_ok_iff, entries] at h
  by_contra hge
  rw [List.getElem?_append_right (Nat.not_lt.mp hge)] at h
  have hentry := List.mem_singleton.mp (List.mem_of_getElem? h)
  exact hname (congrArg Prod.fst hentry)

end FieldList

namespace FieldLayout

variable {layout : FieldLayout} {i : Nat}

theorem get_of_getElem?_parameterFields {slot : ParameterField}
    (h : layout.parameterFields[i]? = some slot) : layout.get i = .ok (.ofParameter slot) := by
  have hlt := (List.getElem?_eq_some_iff.mp h).1
  have hfield : layout.fields[i]? = some (.ofParameter slot) := by
    rw [fields, List.getElem?_append_left (by rwa [List.length_map]), List.getElem?_map, h]
    rfl
  rw [get, hfield]

theorem get_length_parameterFields (layout : FieldLayout) :
    layout.get layout.parameterFields.length = .ok (.rawTemplate layout.template) := by
  have hlength := layout.parameterFields.length_map LayoutField.ofParameter
  rw [get, fields, ← hlength, List.getElem?_concat_length]

end FieldLayout

/-! ## Lists from layouts -/

theorem ofLayout_eq_error {layout : FieldLayout} {values : List Value}
    (h : values.length ≠ layout.parameterFields.length) :
    FieldList.ofLayout layout values
      = .error (.valueCountMismatch layout.parameterFields.length values.length) := by
  rw [FieldList.ofLayout, if_neg (Ne.symm h)]

/-- **A list is built exactly from one value for each field of its layout.** -/
theorem ofLayout_eq_ok_iff {layout : FieldLayout} {values : List Value} {list : FieldList} :
    FieldList.ofLayout layout values = .ok list ↔
      values.length = layout.parameterFields.length ∧
        list = ⟨layout.parameterFields.zipWith
          (fun slot v => (slot.name, slot.rendering.adapt v)) values, layout.template⟩ := by
  by_cases hlength : values.length = layout.parameterFields.length
  · rw [ofLayout_eq_ok hlength, Except.ok.injEq, and_iff_right hlength, eq_comm]
  · rw [ofLayout_eq_error hlength]
    exact iff_of_false nofun fun h => hlength h.1

/-! ## The raw template -/

/-- **No placeholder has the name of the raw template**, however its braces are escaped:
    that name starts with an opening brace. -/
theorem ne_rawTemplateName_of_mem {template : String} {p : Placeholder}
    (h : p ∈ placeholders template) : p.name ≠ rawTemplateName := by
  obtain ⟨i, hi⟩ := List.mem_iff_getElem?.mp h
  obtain ⟨hole, hhole, hp, -, -⟩ := exists_hole_of_getElem?_placeholders hi
  have hwell : p.IsWellFormed := by
    rw [hp]
    exact (Hole.isEscaped_of_mem_holes (List.mem_of_getElem? hhole)).isWellFormed_placeholder _ _
  intro hname
  refine hwell.name_starts ?_
  rw [hname]
  rfl

-- Of three opening braces the last one opens, and three closing ones close at the first.
example : names "\x7b\x7b\x7bOriginalFormat\x7d\x7d\x7d" = ["OriginalFormat"] := by
  decide +kernel

/-- Looking among the fields is looking among all entries, but for the raw template. -/
theorem lookup_fields_eq_find? {list : FieldList} {name : String} (h : name ≠ rawTemplateName) :
    list.fields.lookup name = list.find? name := by
  have hlast : List.lookup name [(rawTemplateName, Value.text list.template)] = none := by
    rw [List.lookup_cons, beq_false_of_ne h]
    rfl
  rw [FieldList.find?, FieldList.entries, List.lookup_append, hlast, Option.or_none]

/-- A message is filled by a search through all entries. -/
theorem message_eq_renderSegments_find? (list : FieldList) :
    list.message = renderSegments (fun p => (list.find? p.name).map Value.render)
      (segments list.template) := by
  refine renderSegments_congr ?_
  intro p hp
  rw [lookup_fields_eq_find? (ne_rawTemplateName_of_mem hp)]

/-! ## Agreement -/

/-- The list follows the layout of the statement, index by index, and its message is filled
    from the arguments' entries alone. -/
structure FieldList.Follows (list : FieldList) (system : TypeSystem) (s : Statement)
    (values : List Value) : Prop where
  length_entries : list.entries.length = s.regular.length + 1
  size_eq : list.size = s.regular.length + 1
  layout_size_eq : (s.layout system).size = s.regular.length + 1
  /-- Only the fields of sequence types wrap their values. -/
  entry : ∀ (i : Nat) (a : Argument) (v : Value), s.regular[i]? = some a →
    values[i]? = some v → ∃ slot, (s.layout system).get i = .ok (.ofParameter slot) ∧
      slot.name = s.fieldName a.name ∧ slot.parameter = a.name ∧ slot.type = a.type ∧
      list.get i = .ok (slot.name,
        if system.assignable a.type .enumerable ∧ ¬ system.assignable a.type .string
        then v.asSequence else v)
  layout_last : (s.layout system).get s.regular.length = .ok (.rawTemplate s.template)
  last : list.get s.regular.length = .ok (rawTemplateName, .text s.template)
  layout_error : ∀ i e, (s.layout system).get i = .error e ↔
    s.regular.length < i ∧ e = ⟨i, s.regular.length + 1⟩
  error : ∀ i e, list.get i = .error e ↔
    s.regular.length < i ∧ e = ⟨i, s.regular.length + 1⟩
  /-- A placeholder is filled from the first of all entries that has its name. -/
  message_eq : list.message = renderSegments (fun p => (list.find? p.name).map Value.render)
    (segments s.template)
  /-- The raw template is no such entry. -/
  lt_of_named : ∀ p ∈ placeholders s.template, ∀ (i : Nat) (entry : String × Value),
    list.get i = .ok entry → entry.1 = p.name → i < s.regular.length

theorem length_parameterFields_layout (system : TypeSystem) (s : Statement) :
    (s.layout system).parameterFields.length = s.regular.length :=
  List.length_map _

/-- A list follows the layout that it is built from. -/
theorem follows_of_ofLayout {system : TypeSystem} {s : Statement} {values : List Value}
    {list : FieldList} (h : FieldList.ofLayout (s.layout system) values = .ok list) :
    list.Follows system s values := by
  obtain ⟨hvalues, hlist⟩ := ofLayout_eq_ok_iff.mp h
  have hslots := length_parameterFields_layout system s
  have hfields : list.fields.length = s.regular.length := by
    rw [hlist, List.length_zipWith, hvalues, Nat.min_self, hslots]
  have htemplate : list.template = s.template := congrArg FieldList.template hlist
  have hsize : list.size = s.regular.length + 1 := congrArg (· + 1) hfields
  refine
    { length_entries := list.length_entries.trans hsize
      size_eq := hsize
      layout_size_eq := congrArg (· + 1) hslots
      entry := ?_
      layout_last := hslots ▸ (s.layout system).get_length_parameterFields
      last := ?_
      layout_error := fun i e => hslots ▸ FieldLayout.get_eq_error_iff
      error := fun i e => hfields ▸ FieldList.get_eq_error_iff
      message_eq := htemplate ▸ message_eq_renderSegments_find? list
      lt_of_named := ?_ }
  · intro i a v ha hv
    have hslot : (s.layout system).parameterFields[i]? = some (s.field system a) :=
      getElem?_parameterFields_layout ha
    refine ⟨s.field system a, FieldLayout.get_of_getElem?_parameterFields hslot, rfl, rfl, rfl, ?_⟩
    refine FieldList.get_of_getElem?_fields ?_
    rw [hlist, List.getElem?_zipWith, hslot, hv]
    show some (_, (s.field system a).rendering.adapt v) = _
    rw [adapt_field, TypeSystem.isSequence]
    simp only [Bool.and_eq_true, Bool.not_eq_true', Bool.not_eq_true]
  · have hlast := list.get_length_fields
    rwa [hfields, htemplate] at hlast
  · intro p hp i entry hget hname
    rw [← hfields]
    exact FieldList.lt_length_fields_of_get hget (hname ▸ ne_rawTemplateName_of_mem hp)

/-- **A layout and the list built from it agree.**  There is a list exactly if there is one
    value for each regular argument, and otherwise it is refused for their number.  The list
    has the names of the layout's fields and the values of the arguments, the raw template
    comes last in both, and both end at the same index.  No placeholder is ever filled from
    the raw template, whatever the template is. -/
theorem layout_and_list_agree (system : TypeSystem) (s : Statement) (values : List Value) :
    ((∃ list, FieldList.ofLayout (s.layout system) values = .ok list) ↔
      values.length = s.regular.length) ∧
    (∀ e, FieldList.ofLayout (s.layout system) values = .error e ↔
      values.length ≠ s.regular.length ∧
        e = .valueCountMismatch s.regular.length values.length) ∧
    ∀ list, FieldList.ofLayout (s.layout system) values = .ok list →
      list.Follows system s values := by
  have hslots := length_parameterFields_layout system s
  by_cases hvalues : values.length = s.regular.length
  · have hlist := ofLayout_eq_ok_iff.mpr ⟨hvalues.trans hslots.symm, rfl⟩
    refine ⟨iff_of_true ⟨_, hlist⟩ hvalues, ?_, fun list => follows_of_ofLayout⟩
    intro e
    refine iff_of_false ?_ fun h => h.1 hvalues
    rw [hlist]
    exact nofun
  · have herror := ofLayout_eq_error (hslots ▸ hvalues)
    refine ⟨iff_of_false ?_ hvalues, ?_, fun list => follows_of_ofLayout⟩
    · rw [herror]
      exact nofun
    · intro e
      rw [herror, hslots, Except.error.injEq, eq_comm]
      exact (and_iff_right hvalues).symm

end StructuredLog
