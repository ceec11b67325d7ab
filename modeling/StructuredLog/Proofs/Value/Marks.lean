import StructuredLog.Value

/-! # Marks — which sequences within a value are rendered

    A value is a tree of sequences, and a place in it is a path of indices.
    Asking for the text of a value marks sequences and does nothing else
    (`unmarked_forced`).  What it marks follows from one invariant: a rendered
    sequence is rendered throughout, since its text took the texts of all the
    sequences in it.  Where this holds, asking for the text of a value renders
    every sequence at every depth (`isRenderedAt_forced_iff`), and the invariant
    still holds (`IsClosed.forcedWithin`). -/

namespace StructuredLog

/-! ## Changing one item of a list -/

section Modify

variable {α β : Type} {f : α → α} {l : List α} {i : Nat}

/-- What is in the list afterwards was in it, or is what became of an item. -/
theorem mem_or_eq_of_mem_modify {b : α} (h : b ∈ l.modify i f) : b ∈ l ∨ ∃ a ∈ l, f a = b := by
  obtain ⟨j, hj⟩ := List.mem_iff_getElem?.mp h
  rw [List.getElem?_modify] at hj
  obtain ⟨a, ha, hb⟩ := Option.map_eq_some_iff.mp hj
  split at hb
  · exact .inr ⟨a, List.mem_of_getElem? ha, hb⟩
  · exact .inl (hb ▸ List.mem_of_getElem? ha)

theorem map_modify {g : α → β} {k : β → β} (h : ∀ a ∈ l, g (f a) = k (g a)) :
    (l.modify i f).map g = (l.map g).modify i k := by
  refine List.ext_getElem? fun j => ?_
  rw [List.getElem?_map, List.getElem?_modify, List.getElem?_modify, List.getElem?_map]
  cases hj : l[j]? with
  | none => rfl
  | some a =>
    by_cases hij : i = j
    · show some (g (if i = j then f a else a)) = some (if i = j then k (g a) else g a)
      rw [if_pos hij, if_pos hij, h a (List.mem_of_getElem? hj)]
    · show some (g (if i = j then f a else a)) = some (if i = j then k (g a) else g a)
      rw [if_neg hij, if_neg hij]

end Modify

namespace Value

/-! ## Places -/

/-- What is at a place of a value. -/
def within? : List Nat → Value → Option Value
  | [], v => some v
  | i :: path, v => (v.items?.bind (·[i]?)).bind (within? path)

/-- At this place is a sequence, if only an absent one. -/
def IsSequenceAt (v : Value) (path : List Nat) : Prop :=
  ∃ w, v.within? path = some w ∧ w.isRendered?.isSome = true

/-- At this place is a rendered sequence. -/
def IsRenderedAt (v : Value) (path : List Nat) : Prop :=
  ∃ w, v.within? path = some w ∧ w.isRendered? = some true

/-- The value itself and all that is within it are so. -/
def Throughout (P : Value → Prop) (v : Value) : Prop :=
  ∀ path w, v.within? path = some w → P w

/-- No sequence of the value is unrendered. -/
def IsAllRendered (v : Value) : Prop :=
  v.Throughout fun w => w.isRendered? ≠ some false

/-- A sequence that is rendered is rendered throughout. -/
def IsClosed (v : Value) : Prop :=
  v.Throughout fun w => w.isRendered? = some true → w.IsAllRendered

mutual

/-- The value with no sequence rendered. -/
def unmarked : Value → Value
  | .absent _ => .absent false
  | .sequence _ items => .sequence false (unmarkedAll items)
  | .null => .null
  | .bool b => .bool b
  | .int n => .int n
  | .float x => .float x
  | .text s => .text s

/-- The values with no sequence rendered. -/
def unmarkedAll : List Value → List Value
  | [] => []
  | v :: vs => v.unmarked :: unmarkedAll vs

end

/-- The value after the text at one place of it was asked for. -/
def forcedWithin : List Nat → Value → Value
  | [], v => v.forced
  | i :: path, .sequence rendered items => .sequence rendered (items.modify i (forcedWithin path))
  | _ :: _, v => v

/-! ## Induction -/

/-- Induction on what is within a value: scalars, absent sequences, and sequences. -/
@[elab_as_elim]
theorem induction_within {motive : Value → Prop}
    (scalar : ∀ v : Value, v.isRendered? = none → motive v)
    (absent : ∀ rendered, motive (.absent rendered))
    (sequence : ∀ rendered items, (∀ v ∈ items, motive v) → motive (.sequence rendered items)) :
    ∀ v, motive v
  | .null => scalar _ rfl
  | .bool _ => scalar _ rfl
  | .int _ => scalar _ rfl
  | .float _ => scalar _ rfl
  | .text _ => scalar _ rfl
  | .absent rendered => absent rendered
  | .sequence rendered items => sequence rendered items fun v hv =>
      have := List.sizeOf_lt_of_mem hv
      induction_within scalar absent sequence v
termination_by v => sizeOf v
decreasing_by
  rw [Value.sequence.sizeOf_spec]
  omega

variable {v w : Value} {rendered : Bool} {items : List Value} {path : List Nat}
  {P : Value → Prop}

theorem unmarkedAll_eq_map (vs : List Value) : unmarkedAll vs = vs.map unmarked := by
  induction vs with
  | nil => rfl
  | cons v vs ih => rw [unmarkedAll, ih, List.map_cons]

theorem forced_of_scalar (h : v.isRendered? = none) : v.forced = v := by
  cases v with
  | absent | sequence => exact nomatch h
  | null | bool | int | float | text => rfl

theorem unmarked_of_scalar (h : v.isRendered? = none) : v.unmarked = v := by
  cases v with
  | absent | sequence => exact nomatch h
  | null | bool | int | float | text => rfl

theorem items?_of_scalar (h : v.isRendered? = none) : v.items? = none := by
  cases v with
  | absent | sequence => exact nomatch h
  | null | bool | int | float | text => rfl

/-! ## Asking changes no more than marks -/

/-- **Asking for a text changes nothing but marks.** -/
theorem unmarked_forced (v : Value) : v.forced.unmarked = v.unmarked := by
  induction v using induction_within with
  | scalar v h => rw [forced_of_scalar h]
  | absent rendered => rfl
  | sequence rendered items ih =>
    cases rendered with
    | true => rfl
    | false =>
      show Value.sequence false (unmarkedAll (forcedAll items))
        = .sequence false (unmarkedAll items)
      rw [forcedAll_eq_map, unmarkedAll_eq_map, unmarkedAll_eq_map, List.map_map]
      exact congrArg _ (List.map_congr_left ih)

/-- The text of a value does not depend on what is rendered. -/
theorem render_unmarked (v : Value) : v.unmarked.render = v.render := by
  induction v using induction_within with
  | scalar v h => rw [unmarked_of_scalar h]
  | absent rendered => rfl
  | sequence rendered items ih =>
    show bracketed (renderAll (unmarkedAll items)) = bracketed (renderAll items)
    rw [unmarkedAll_eq_map, renderAll_eq_map, renderAll_eq_map, List.map_map]
    exact congrArg _ (List.map_congr_left ih)

theorem render_forced (v : Value) : v.forced.render = v.render := by
  rw [← render_unmarked, unmarked_forced, render_unmarked]

/-- What was asked for its text need not be asked again. -/
theorem forced_forced (v : Value) : v.forced.forced = v.forced := by
  cases v with
  | sequence rendered items => cases rendered <;> rfl
  | absent | null | bool | int | float | text => rfl

/-- Asking for a text at a path changes marks only. -/
theorem unmarked_forcedWithin (path : List Nat) (v : Value) :
    (v.forcedWithin path).unmarked = v.unmarked := by
  induction path generalizing v with
  | nil => exact unmarked_forced v
  | cons i path ih =>
    cases v with
    | sequence rendered items =>
      show Value.sequence false (unmarkedAll _) = .sequence false (unmarkedAll items)
      rw [unmarkedAll_eq_map, unmarkedAll_eq_map, map_modify (k := id) fun v _ => ih v,
        List.modify_id]
    | absent | null | bool | int | float | text => rfl

theorem render_forcedWithin (path : List Nat) (v : Value) :
    (v.forcedWithin path).render = v.render := by
  rw [← render_unmarked, unmarked_forcedWithin, render_unmarked]

theorem isRendered?_unmarked (v : Value) :
    v.unmarked.isRendered? = v.isRendered?.map fun _ => false := by
  cases v <;> rfl

theorem items?_unmarked (v : Value) : v.unmarked.items? = v.items?.map (·.map unmarked) := by
  cases v with
  | sequence rendered items => exact congrArg some (unmarkedAll_eq_map items)
  | absent | null | bool | int | float | text => rfl

/-- A path leads to the same value with and without marks. -/
theorem within?_unmarked (path : List Nat) (v : Value) :
    v.unmarked.within? path = (v.within? path).map unmarked := by
  induction path generalizing v with
  | nil => rfl
  | cons i path ih =>
    rw [within?, within?, items?_unmarked]
    cases v.items? with
    | none => rfl
    | some items =>
      show ((items.map unmarked)[i]?).bind _ = (items[i]?.bind _).map _
      rw [List.getElem?_map]
      cases items[i]? with
      | none => rfl
      | some item => exact ih item

/-- Marks do not decide where sequences are. -/
theorem isSequenceAt_unmarked_iff : v.unmarked.IsSequenceAt path ↔ v.IsSequenceAt path := by
  rw [IsSequenceAt, IsSequenceAt, within?_unmarked]
  cases v.within? path with
  | none => simp
  | some w => simp [isRendered?_unmarked]

/-! ## Throughout -/

theorem within?_append (path : List Nat) (rest : List Nat) (v : Value) :
    v.within? (path ++ rest) = (v.within? path).bind (within? rest) := by
  induction path generalizing v with
  | nil => rfl
  | cons i path ih =>
    show ((v.items?.bind _).bind _) = Option.bind (Option.bind (v.items?.bind _) _) _
    rw [Option.bind_assoc (v.items?.bind _)]
    exact congrArg _ (funext ih)

theorem Throughout.self (h : v.Throughout P) : P v :=
  h [] v rfl

theorem Throughout.within (h : v.Throughout P) (hw : v.within? path = some w) :
    w.Throughout P := by
  intro rest x hx
  refine h (path ++ rest) x ?_
  rw [within?_append, hw]
  exact hx

theorem throughout_of_items?_eq_none (h : v.items? = none) : v.Throughout P ↔ P v := by
  refine ⟨Throughout.self, fun hv path w hw => ?_⟩
  cases path with
  | nil => exact Option.some.inj hw ▸ hv
  | cons i path =>
    rw [within?, h] at hw
    exact nomatch hw

/-- What holds throughout a sequence holds of it and throughout its items. -/
theorem throughout_sequence :
    (Value.sequence rendered items).Throughout P ↔
      P (.sequence rendered items) ∧ ∀ v ∈ items, v.Throughout P := by
  constructor
  · intro h
    refine ⟨h.self, fun v hv path w hw => ?_⟩
    obtain ⟨i, hi⟩ := List.mem_iff_getElem?.mp hv
    refine h (i :: path) w ?_
    show items[i]?.bind _ = _
    rw [hi]
    exact hw
  · rintro ⟨hself, hitems⟩ path w hw
    cases path with
    | nil => exact Option.some.inj hw ▸ hself
    | cons i path =>
      obtain ⟨v, hv, hw⟩ := Option.bind_eq_some_iff.mp hw
      exact hitems v (List.mem_of_getElem? hv) path w hw

/-! ## The invariant -/

theorem IsAllRendered.forced_eq (h : v.IsAllRendered) : v.forced = v := by
  cases v with
  | absent rendered | sequence rendered items =>
    cases rendered with
    | true => rfl
    | false => exact absurd rfl h.self
  | null | bool | int | float | text => rfl

theorem IsAllRendered.isClosed (h : v.IsAllRendered) : v.IsClosed :=
  fun _ _ hw _ => Throughout.within h hw

theorem isClosed_of_scalar (h : v.isRendered? = none) : v.IsClosed :=
  (throughout_of_items?_eq_none (items?_of_scalar h)).mpr fun htrue => nomatch h.symm.trans htrue

theorem isClosed_absent : (Value.absent rendered).IsClosed :=
  (throughout_of_items?_eq_none rfl).mpr fun htrue =>
    (throughout_of_items?_eq_none rfl).mpr fun hfalse => nomatch htrue.symm.trans hfalse

theorem isAllRendered_sequence_iff :
    (Value.sequence true items).IsAllRendered ↔ ∀ v ∈ items, v.IsAllRendered := by
  rw [IsAllRendered, throughout_sequence, and_iff_right]
  · rfl
  · exact nofun

theorem isClosed_sequence_iff :
    (Value.sequence rendered items).IsClosed ↔
      (rendered = true → ∀ v ∈ items, v.IsAllRendered) ∧ ∀ v ∈ items, v.IsClosed := by
  rw [IsClosed, throughout_sequence]
  refine and_congr_left fun _ => ?_
  cases rendered with
  | true => exact ⟨fun h _ => isAllRendered_sequence_iff.mp (h rfl),
      fun h _ => isAllRendered_sequence_iff.mpr (h rfl)⟩
  | false => exact ⟨fun _ => nofun, fun _ => nofun⟩

/-- **Asking for the text of a value renders all the sequences in it.** -/
theorem IsClosed.isAllRendered_forced (h : v.IsClosed) : v.forced.IsAllRendered := by
  induction v using induction_within with
  | scalar v hscalar =>
    rw [forced_of_scalar hscalar]
    refine (throughout_of_items?_eq_none (items?_of_scalar hscalar)).mpr ?_
    rw [hscalar]
    exact nofun
  | absent rendered => exact (throughout_of_items?_eq_none rfl).mpr nofun
  | sequence rendered items ih =>
    rw [isClosed_sequence_iff] at h
    cases rendered with
    | true =>
      -- its items were asked when it was
      exact isAllRendered_sequence_iff.mpr (h.1 rfl)
    | false =>
      show (Value.sequence true (forcedAll items)).IsAllRendered
      rw [forcedAll_eq_map, isAllRendered_sequence_iff]
      intro w hw
      obtain ⟨v, hv, rfl⟩ := List.mem_map.mp hw
      exact ih v hv (h.2 v hv)

/-- In a value that is rendered throughout, every sequence is rendered. -/
theorem IsAllRendered.isRenderedAt_iff (h : v.IsAllRendered) :
    v.IsRenderedAt path ↔ v.IsSequenceAt path := by
  refine exists_congr fun w => and_congr_right fun hw => ?_
  have hfalse := h path w hw
  cases hmark : w.isRendered? with
  | none => exact iff_of_false nofun nofun
  | some rendered =>
    cases rendered with
    | true => exact iff_of_true rfl rfl
    | false => exact absurd hmark hfalse

/-- A place is rendered, once the text was asked for, exactly if a sequence is there. -/
theorem isRenderedAt_forced_iff (h : v.IsClosed) :
    v.forced.IsRenderedAt path ↔ v.IsSequenceAt path := by
  rw [h.isAllRendered_forced.isRenderedAt_iff, ← isSequenceAt_unmarked_iff, unmarked_forced,
    isSequenceAt_unmarked_iff]

theorem IsRenderedAt.isSequenceAt (h : v.IsRenderedAt path) : v.IsSequenceAt path := by
  obtain ⟨w, hw, hmark⟩ := h
  exact ⟨w, hw, hmark ▸ rfl⟩

/-- Nothing is left to do within a value that is rendered throughout. -/
theorem IsAllRendered.forcedWithin_eq (h : v.IsAllRendered) :
    v.forcedWithin path = v := by
  induction path generalizing v with
  | nil => exact h.forced_eq
  | cons i path ih =>
    cases v with
    | sequence rendered items =>
      have hitems := map_modify (i := i) (k := id) fun v hv =>
        congrArg id (ih ((throughout_sequence.mp h).2 v hv))
      rw [List.map_id, List.map_id, List.modify_id] at hitems
      exact congrArg _ hitems
    | absent | null | bool | int | float | text => rfl

/-- Asking for a text at a path leaves every rendered sequence rendered throughout. -/
theorem IsClosed.forcedWithin (h : v.IsClosed) (path : List Nat) :
    (v.forcedWithin path).IsClosed := by
  induction path generalizing v with
  | nil => exact h.isAllRendered_forced.isClosed
  | cons i path ih =>
    cases v with
    | sequence rendered items =>
      cases rendered with
      | true =>
        have hall : (Value.sequence true items).IsAllRendered := h.self rfl
        rwa [hall.forcedWithin_eq]
      | false =>
        rw [isClosed_sequence_iff] at h
        refine isClosed_sequence_iff.mpr ⟨nofun, fun w hw => ?_⟩
        rcases mem_or_eq_of_mem_modify hw with hw | ⟨v, hv, rfl⟩
        · exact h.2 w hw
        · exact ih (h.2 v hv)
    | absent | null | bool | int | float | text => exact h

/-! ## Values as sequences -/

theorem not_isSequenceAt_of_scalar (h : v.isRendered? = none) : ¬ v.IsSequenceAt path := by
  rintro ⟨w, hw, hmark⟩
  have hself : v.Throughout (·.isRendered? = none) :=
    (throughout_of_items?_eq_none (items?_of_scalar h)).mpr h
  rw [hself path w hw] at hmark
  exact nomatch hmark

theorem asSequence_of_scalar (h : v.isRendered? = none) :
    v.asSequence = .absent false ∨ v.asSequence = .sequence false [v] := by
  cases v with
  | absent | sequence => exact nomatch h
  | null => exact .inl rfl
  | bool | int | float | text => exact .inr rfl

theorem asSequence_of_isRendered? (h : v.isRendered? ≠ none) : v.asSequence = v := by
  cases v with
  | absent | sequence => rfl
  | null | bool | int | float | text => exact absurd rfl h

/-- Taking a value as a sequence renders nothing. -/
theorem isRenderedAt_asSequence_iff : v.asSequence.IsRenderedAt path ↔ v.IsRenderedAt path := by
  by_cases h : v.isRendered? = none
  · refine iff_of_false ?_ fun hv => not_isSequenceAt_of_scalar h hv.isSequenceAt
    rintro ⟨w, hw, hmark⟩
    have hnot : v.asSequence.Throughout (·.isRendered? ≠ some true) := by
      rcases asSequence_of_scalar h with heq | heq
      · rw [heq, throughout_of_items?_eq_none rfl]
        exact nofun
      · rw [heq, throughout_sequence]
        refine ⟨nofun, fun w hw => ?_⟩
        rw [List.mem_singleton.mp hw, throughout_of_items?_eq_none (items?_of_scalar h), h]
        exact nofun
    exact hnot path w hw hmark
  · rw [asSequence_of_isRendered? h]

theorem IsClosed.asSequence (h : v.IsClosed) : v.asSequence.IsClosed := by
  by_cases hscalar : v.isRendered? = none
  · rcases asSequence_of_scalar hscalar with heq | heq
    · rw [heq]
      exact isClosed_absent
    · rw [heq, isClosed_sequence_iff]
      exact ⟨nofun, fun w hw => List.mem_singleton.mp hw ▸ h⟩
  · rwa [asSequence_of_isRendered? hscalar]

/-! ## Equality -/

theorem sameAll_unmarkedAll_of_forall {vs : List Value}
    (h : ∀ v ∈ vs, ∀ w : Value, v.unmarked.same w.unmarked = v.same w) (ws : List Value) :
    sameAll (unmarkedAll vs) (unmarkedAll ws) = sameAll vs ws := by
  induction vs generalizing ws with
  | nil => cases ws <;> rfl
  | cons v vs ih =>
    cases ws with
    | nil => rfl
    | cons w ws =>
      show (v.unmarked.same w.unmarked && sameAll (unmarkedAll vs) (unmarkedAll ws))
        = (v.same w && sameAll vs ws)
      rw [h v List.mem_cons_self, ih fun v hv => h v (List.mem_cons_of_mem _ hv)]

/-- Whether values are equal does not depend on what is rendered. -/
theorem same_unmarked (v w : Value) : v.unmarked.same w.unmarked = v.same w := by
  induction v using induction_within generalizing w with
  | scalar v h =>
    rw [unmarked_of_scalar h]
    cases v with
    | absent | sequence => exact nomatch h
    | null | bool | int | float | text => cases w <;> rfl
  | absent rendered => cases w <;> rfl
  | sequence rendered items ih =>
    cases w with
    | sequence rendered' items' => exact sameAll_unmarkedAll_of_forall ih items'
    | absent | null | bool | int | float | text => rfl

theorem sameAll_unmarkedAll (vs ws : List Value) :
    sameAll (unmarkedAll vs) (unmarkedAll ws) = sameAll vs ws :=
  sameAll_unmarkedAll_of_forall (fun v _ => same_unmarked v) ws

end Value

end StructuredLog
