import StructuredLog.Proofs.Message.Entries
import StructuredLog.Proofs.Value.Marks

/-! # Forcing — which fields a message asks for their texts

    A message asks the first field of each name that a placeholder has, and no
    other field.  It stops at a width that cannot be served; where it has a
    text it got to all placeholders (`mem_visitedNames_iff`), so the sequences
    that are rendered afterwards are those that were before, and those in the
    fields that it shows (`isRenderedAt_afterMessage_iff`). -/

namespace StructuredLog

open Template

/-- Where no width is in the way, all holes are visited that are filled. -/
theorem visitedHoles_eq_filter {hasFilling : Placeholder → Bool} {segments : List Segment}
    (h : ∀ p ∈ segments.filterMap Segment.hole?, hasFilling p = true → p.isTooWide = false) :
    visitedHoles hasFilling segments = (segments.filterMap Segment.hole?).filter hasFilling := by
  induction segments with
  | nil => rfl
  | cons segment rest ih =>
    cases segment with
    | literal text => exact ih h
    | hole p =>
      rw [List.filterMap_cons_some (rfl : (Segment.hole p).hole? = some p)] at h ⊢
      have hrest := ih fun q hq => h q (List.mem_cons_of_mem p hq)
      rw [visitedHoles, List.filter_cons, hrest]
      cases hfilled : hasFilling p with
      | false => rfl
      | true =>
        rw [h p List.mem_cons_self hfilled]
        rfl

theorem lookup_map_snd {α β : Type} (f : α → β) (fields : List (String × α)) (name : String) :
    (fields.map fun field => (field.1, f field.2)).lookup name = (fields.lookup name).map f := by
  induction fields with
  | nil => rfl
  | cons field rest ih =>
    rw [List.map_cons, List.lookup_cons, List.lookup_cons, ih]
    cases name == field.1 <;> rfl

namespace FieldList

/-! ## What a list contains -/

/-- The fields with no sequence rendered. -/
def unmarkedFields (fields : List (String × Value)) : List (String × Value) :=
  fields.map fun field => (field.1, field.2.unmarked)

/-- The list with no sequence rendered. -/
def unmarked (list : FieldList) : FieldList :=
  { list with fields := unmarkedFields list.fields }

/-- At this place of this entry is a sequence, if only an absent one. -/
def IsSequenceAt (list : FieldList) (i : Nat) (path : List Nat) : Prop :=
  ∃ entry, list.entries[i]? = some entry ∧ entry.2.IsSequenceAt path

/-- At this place of this entry is a rendered sequence. -/
def IsRenderedAt (list : FieldList) (i : Nat) (path : List Nat) : Prop :=
  ∃ entry, list.entries[i]? = some entry ∧ entry.2.IsRenderedAt path

/-- The entry is the first of its name, which some placeholder has. -/
def IsShown (list : FieldList) (i : Nat) : Prop :=
  ∃ p ∈ placeholders list.template, list.entries.findIdx? (·.1 == p.name) = some i

/-- Equality of lists: of names, values and templates. -/
def same (list other : FieldList) : Bool :=
  list.entries.map Prod.fst == other.entries.map Prod.fst &&
    Value.sameAll (list.entries.map Prod.snd) (other.entries.map Prod.snd) &&
      list.template == other.template

variable {list : FieldList} {names : List String} {name : String}
  {fields : List (String × Value)} {i : Nat} {path : List Nat}

/-! ## Forcing names -/

theorem forceNamed_nil (fields : List (String × Value)) : forceNamed [] fields = fields := by
  induction fields with
  | nil => rfl
  | cons field rest ih =>
    rw [forceNamed, ih]
    rfl

theorem forceNamed_singleton_self {key : String} {v : Value} :
    forceNamed [key] ((key, v) :: fields) = (key, v.forced) :: fields := by
  rw [forceNamed, if_pos (by simp), List.filter_cons_of_neg (by simp), List.filter_nil,
    forceNamed_nil]

theorem forceNamed_singleton_of_ne {key : String} {v : Value} (h : key ≠ name) :
    forceNamed [name] ((key, v) :: fields) = (key, v) :: forceNamed [name] fields := by
  rw [forceNamed, if_neg (by simpa using h)]

/-- Names are forced one after another. -/
theorem forceNamed_cons (name : String) (names : List String) (fields : List (String × Value)) :
    forceNamed (name :: names) fields = forceNamed names (forceNamed [name] fields) := by
  induction fields generalizing names with
  | nil => rfl
  | cons field rest ih =>
    obtain ⟨key, v⟩ := field
    by_cases hkey : key = name
    · -- forced once or twice, this is the only field that is found by its name
      subst hkey
      rw [forceNamed_singleton_self, forceNamed, forceNamed, if_pos (by simp),
        List.filter_cons_of_neg (by simp)]
      by_cases hmem : names.contains key = true
      · rw [if_pos hmem, Value.forced_forced]
      · rw [if_neg hmem, List.filter_eq_self.mpr]
        intro other hother
        rw [decide_eq_true_iff]
        rintro rfl
        exact hmem (List.contains_iff_mem.mpr hother)
    · have hcontains : (name :: names).contains key = names.contains key := by
        rw [List.contains_cons, beq_false_of_ne hkey, Bool.false_or]
      rw [forceNamed_singleton_of_ne hkey, forceNamed, forceNamed, hcontains]
      split
      · rw [List.filter_cons_of_pos (by simpa using Ne.symm hkey), ih]
      · rw [ih]

/-- **The first field of each of the names is forced, and no other.** -/
theorem getElem?_forceNamed :
    (forceNamed names fields)[i]? = fields[i]?.map fun field =>
      (field.1, if field.1 ∈ names ∧ field.1 ∉ (fields.take i).map Prod.fst then field.2.forced
        else field.2) := by
  induction fields generalizing names i with
  | nil => rfl
  | cons field rest ih =>
    obtain ⟨key, v⟩ := field
    cases i with
    | zero =>
      rw [forceNamed]
      by_cases hkey : key ∈ names
      · rw [if_pos (List.contains_iff_mem.mpr hkey)]
        exact congrArg (fun v => some (key, v)) (if_pos ⟨hkey, List.not_mem_nil⟩).symm
      · rw [if_neg (mt List.contains_iff_mem.mp hkey)]
        exact congrArg (fun v => some (key, v)) (if_neg fun h => hkey h.1).symm
    | succ i =>
      rw [forceNamed]
      by_cases hkey : key ∈ names
      · rw [if_pos (List.contains_iff_mem.mpr hkey), List.getElem?_cons_succ, ih,
          List.getElem?_cons_succ]
        refine congrFun (congrArg Option.map (funext fun field => ?_)) _
        refine congrArg (Prod.mk field.1) (ite_congr (propext ?_) (fun _ => rfl) fun _ => rfl)
        rw [List.mem_filter, decide_eq_true_iff, List.take_succ_cons, List.map_cons,
          List.mem_cons, not_or, and_assoc]
      · rw [if_neg (mt List.contains_iff_mem.mp hkey), List.getElem?_cons_succ, ih,
          List.getElem?_cons_succ]
        refine congrFun (congrArg Option.map (funext fun field => ?_)) _
        refine congrArg (Prod.mk field.1) (ite_congr (propext ?_) (fun _ => rfl) fun _ => rfl)
        rw [List.take_succ_cons, List.map_cons, List.mem_cons, not_or]
        exact and_congr_right fun hfield => (and_iff_right (ne_of_mem_of_not_mem hfield hkey)).symm

/-- Scalars may be left out. -/
theorem forceNamed_concat {v : Value} (names : List String) (fields : List (String × Value))
    (key : String) (h : v.isRendered? = none) :
    forceNamed names (fields ++ [(key, v)]) = forceNamed names fields ++ [(key, v)] := by
  induction fields generalizing names with
  | nil =>
    show (if names.contains key then (key, v.forced) :: forceNamed _ []
      else (key, v) :: forceNamed names []) = [(key, v)]
    rw [Value.forced_of_scalar h]
    split <;> rfl
  | cons field rest ih =>
    rw [List.cons_append, forceNamed, forceNamed, ih, ih]
    split <;> rfl

theorem unmarkedFields_forceNamed (names : List String) (fields : List (String × Value)) :
    unmarkedFields (forceNamed names fields) = unmarkedFields fields := by
  refine List.ext_getElem? fun i => ?_
  rw [unmarkedFields, unmarkedFields, List.getElem?_map, List.getElem?_map, getElem?_forceNamed,
    Option.map_map]
  refine congrFun (congrArg Option.map (funext fun field => ?_)) _
  refine congrArg (Prod.mk field.1) ?_
  show Value.unmarked (if _ then _ else _) = _
  split
  · exact Value.unmarked_forced field.2
  · rfl

/-- Whatever is asked of a field but marks, forcing does not change. -/
theorem lookup_forceNamed {α : Type} {f : Value → α} (hf : ∀ v, f v.unmarked = f v)
    (names : List String) (fields : List (String × Value)) (name : String) :
    ((forceNamed names fields).lookup name).map f = (fields.lookup name).map f := by
  have hlookup := congrArg (List.lookup name) (unmarkedFields_forceNamed names fields)
  rw [unmarkedFields, unmarkedFields, lookup_map_snd, lookup_map_snd] at hlookup
  have hmap := congrArg (Option.map f) hlookup
  rw [Option.map_map, Option.map_map] at hmap
  rwa [show f ∘ Value.unmarked = f from funext hf] at hmap

theorem isSome_lookup_forceNamed (names : List String) (fields : List (String × Value))
    (name : String) :
    ((forceNamed names fields).lookup name).isSome = (fields.lookup name).isSome := by
  have hlookup := congrArg Option.isSome
    (lookup_forceNamed Value.render_unmarked names fields name)
  rwa [Option.isSome_map, Option.isSome_map] at hlookup

/-! ## What a message shows -/

/-- A message with a text asks for all names that placeholders and fields have. -/
theorem mem_visitedNames_iff {text : String} (h : list.message = .ok text) :
    name ∈ list.visitedNames ↔
      (∃ p ∈ placeholders list.template, p.name = name) ∧
        (list.fields.lookup name).isSome = true := by
  obtain ⟨hwidths, -⟩ := renderSegments_eq_ok_iff.mp h
  rw [visitedNames, visitedHoles_eq_filter, filterMap_hole?_segments, List.mem_map]
  · constructor
    · rintro ⟨p, hp, rfl⟩
      obtain ⟨hmem, hfilled⟩ := List.mem_filter.mp hp
      exact ⟨⟨p, hmem, rfl⟩, hfilled⟩
    · rintro ⟨⟨p, hmem, rfl⟩, hfilled⟩
      exact ⟨p, List.mem_filter.mpr ⟨hmem, hfilled⟩, rfl⟩
  · rw [filterMap_hole?_segments]
    intro p hp hfilled
    refine hwidths p hp ?_
    rwa [Option.isSome_map]

/-- A search by name ends at an entry exactly if that has the name and no earlier one does. -/
theorem findIdx?_name_eq_some_iff {entries : List (String × Value)} {entry : String × Value}
    (h : entries[i]? = some entry) :
    entries.findIdx? (·.1 == name) = some i ↔
      entry.1 = name ∧ name ∉ (entries.take i).map Prod.fst := by
  obtain ⟨hlt, rfl⟩ := List.getElem?_eq_some_iff.mp h
  rw [List.findIdx?_eq_some_iff_getElem]
  constructor
  · rintro ⟨_, hname, hfirst⟩
    refine ⟨eq_of_beq hname, fun hmem => ?_⟩
    obtain ⟨earlier, hearlier, rfl⟩ := List.mem_map.mp hmem
    obtain ⟨j, hj, rfl⟩ := List.mem_take_iff_getElem.mp hearlier
    exact hfirst j (Nat.lt_of_lt_of_le hj (Nat.min_le_left _ _)) (beq_self_eq_true _)
  · rintro ⟨hname, hfirst⟩
    refine ⟨hlt, beq_iff_eq.mpr hname, fun j hj hearlier => hfirst ?_⟩
    have hj' : j < entries.length := Nat.lt_trans hj hlt
    refine List.mem_map.mpr ⟨entries[j], List.mem_take_iff_getElem.mpr ⟨j, ?_, rfl⟩, ?_⟩
    · exact Nat.lt_min.mpr ⟨hj, hj'⟩
    · exact eq_of_beq hearlier

theorem isShown_iff {entry : String × Value} (h : list.entries[i]? = some entry) :
    list.IsShown i ↔ (∃ p ∈ placeholders list.template, p.name = entry.1) ∧
      entry.1 ∉ (list.entries.take i).map Prod.fst := by
  simp only [IsShown, findIdx?_name_eq_some_iff h]
  constructor
  · rintro ⟨p, hp, hname, hfirst⟩
    exact ⟨⟨p, hp, hname.symm⟩, hname ▸ hfirst⟩
  · rintro ⟨⟨p, hp, hname⟩, hfirst⟩
    exact ⟨p, hp, hname.symm, hname ▸ hfirst⟩

theorem isRenderedAt_iff {entry : String × Value} (h : list.entries[i]? = some entry) :
    list.IsRenderedAt i path ↔ entry.2.IsRenderedAt path := by
  simp only [IsRenderedAt, h, Option.some.injEq, exists_eq_left']

theorem isSequenceAt_iff {entry : String × Value} (h : list.entries[i]? = some entry) :
    list.IsSequenceAt i path ↔ entry.2.IsSequenceAt path := by
  simp only [IsSequenceAt, h, Option.some.injEq, exists_eq_left']

/-- The raw template may stand among the fields, since forcing does not change it. -/
theorem entries_afterMessage (list : FieldList) :
    list.afterMessage.entries = forceNamed list.visitedNames list.entries :=
  (forceNamed_concat list.visitedNames list.fields rawTemplateName rfl).symm

/-- A message changes nothing but marks. -/
theorem unmarked_afterMessage (list : FieldList) : list.afterMessage.unmarked = list.unmarked :=
  congrArg (FieldList.mk · list.template) (unmarkedFields_forceNamed list.visitedNames list.fields)

/-- **After a message has its text, a sequence is rendered exactly if it was before, or is in a
    value that the message shows.** -/
theorem isRenderedAt_afterMessage_iff {text : String} (hmessage : list.message = .ok text)
    (hclosed : ∀ field ∈ list.fields, field.2.IsClosed) :
    list.afterMessage.IsRenderedAt i path ↔
      list.IsRenderedAt i path ∨ (list.IsShown i ∧ list.IsSequenceAt i path) := by
  have hafter := congrArg (·[i]?) (entries_afterMessage list)
  cases hentry : list.entries[i]? with
  | none =>
    replace hafter : list.afterMessage.entries[i]? = none := by
      rw [hafter, getElem?_forceNamed, hentry]
      rfl
    simp [IsRenderedAt, IsSequenceAt, hentry, hafter]
  | some entry =>
    rw [getElem?_forceNamed, hentry, Option.map_some] at hafter
    rw [isRenderedAt_iff hafter, isRenderedAt_iff hentry, isSequenceAt_iff hentry,
      isShown_iff hentry]
    dsimp only
    rcases List.mem_append.mp (List.mem_of_getElem? hentry) with hfield | hlast
    · have hlookup : (list.fields.lookup entry.1).isSome = true :=
        List.lookup_isSome_iff.mpr ⟨entry, hfield, beq_self_eq_true _⟩
      have hvisited := (mem_visitedNames_iff hmessage).trans (and_iff_left hlookup)
      rw [← hvisited]
      split
      · next hshown =>
        rw [Value.isRenderedAt_forced_iff (hclosed entry hfield), and_iff_right hshown]
        exact ⟨.inr, fun h => h.elim Value.IsRenderedAt.isSequenceAt id⟩
      · next hshown => exact ⟨.inl, fun h => h.elim id fun h => absurd h.1 hshown⟩
    · -- the raw template is no sequence
      obtain rfl := List.mem_singleton.mp hlast
      have hnone : ¬ (Value.text list.template).IsSequenceAt path :=
        Value.not_isSequenceAt_of_scalar rfl
      rw [Value.forced_of_scalar rfl, ite_self]
      exact ⟨.inl, fun h => h.elim id fun h => absurd h.2 hnone⟩

/-! ## Building and comparing -/

theorem isRenderedAt_adapt_iff {v : Value} (rendering : FieldRendering) :
    (rendering.adapt v).IsRenderedAt path ↔ v.IsRenderedAt path := by
  cases rendering with
  | plain => exact Iff.rfl
  | lazySequence => exact Value.isRenderedAt_asSequence_iff

/-- The fields of a layout have nothing rendered that their values have not. -/
theorem isRenderedAt_ofLayout_iff {layout : FieldLayout} {values : List Value}
    (h : ofLayout layout values = .ok list) :
    list.IsRenderedAt i path ↔ ∃ v, values[i]? = some v ∧ v.IsRenderedAt path := by
  obtain ⟨hvalues, rfl⟩ := ofLayout_eq_ok_iff.mp h
  have hlength : (layout.parameterFields.zipWith
      (fun slot v => (slot.name, slot.rendering.adapt v)) values).length = values.length := by
    rw [List.length_zipWith, hvalues, Nat.min_self]
  rw [IsRenderedAt, entries]
  by_cases hlt : i < values.length
  · have hslot := List.getElem?_eq_getElem (hvalues ▸ hlt : i < layout.parameterFields.length)
    rw [List.getElem?_append_left (hlength ▸ hlt), List.getElem?_zipWith, hslot,
      List.getElem?_eq_getElem hlt]
    simp only [Option.some.injEq, exists_eq_left']
    exact isRenderedAt_adapt_iff _
  · refine iff_of_false ?_ ?_
    · rintro ⟨entry, hentry, hrendered⟩
      rw [List.getElem?_append_right (hlength ▸ Nat.le_of_not_lt hlt)] at hentry
      rw [List.mem_singleton.mp (List.mem_of_getElem? hentry)] at hrendered
      exact Value.not_isSequenceAt_of_scalar rfl hrendered.isSequenceAt
    · rintro ⟨v, hv, -⟩
      exact hlt (List.getElem?_eq_some_iff.mp hv).1

/-- Whether lists are equal does not depend on what is rendered. -/
theorem same_unmarked (list other : FieldList) :
    list.unmarked.same other.unmarked = list.same other := by
  have hvalues (list : FieldList) : list.unmarked.entries.map Prod.snd
      = Value.unmarkedAll (list.entries.map Prod.snd) := by
    rw [Value.unmarkedAll_eq_map, entries, entries, unmarked, unmarkedFields]
    simp [Function.comp_def, Value.unmarked]
  have hnames (list : FieldList) : list.unmarked.entries.map Prod.fst
      = list.entries.map Prod.fst := by
    rw [entries, entries, unmarked, unmarkedFields]
    simp [Function.comp_def]
  rw [same, same, hvalues, hvalues, hnames, hnames, Value.sameAll_unmarkedAll]
  rfl

end FieldList

end StructuredLog
