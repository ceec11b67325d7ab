import StructuredLog.Proofs.Value.Marks

/-! # Caching — values that keep the texts of their sequences

    A sequence has a cell for its text, which is filled when the text is first
    asked for, from the texts of the items, whose cells are filled on the way.
    Later the text is read off the cell.

    Without the texts these are values with marks: asking for a text marks the
    sequences that `forced` marks (`erase_ask`).  The texts are the ones that
    the values would be given afresh (`CachedValue.IsSound.text_ask`), which is kept up
    by asking for a text anywhere (`CachedValue.IsSound.askWithin`). -/

namespace StructuredLog

/-- A value with the texts of its sequences, as far as they were asked for. -/
inductive CachedValue where
  | scalar (v : Value) (h : v.isRendered? = none)
  | absent (text? : Option String)
  | sequence (text? : Option String) (items : List CachedValue)

namespace CachedValue

mutual

/-- The value, with a mark for each text that is kept. -/
def erase : CachedValue → Value
  | .scalar v _ => v
  | .absent text? => .absent text?.isSome
  | .sequence text? items => .sequence text?.isSome (eraseAll items)

/-- The values, with marks. -/
def eraseAll : List CachedValue → List Value
  | [] => []
  | v :: vs => v.erase :: eraseAll vs

end

mutual

/-- The text of the value, and the value afterwards. -/
def ask : CachedValue → String × CachedValue
  | .scalar v h => (v.render, .scalar v h)
  | .absent (some text) => (text, .absent (some text))
  | .absent none => (Value.nullText, .absent (some Value.nullText))
  | .sequence (some text) items => (text, .sequence (some text) items)
  | .sequence none items =>
    let (texts, items) := askAll items
    let text := Value.bracketed texts
    (text, .sequence (some text) items)

/-- The texts of the values, and the values afterwards. -/
def askAll : List CachedValue → List String × List CachedValue
  | [] => ([], [])
  | v :: vs =>
    let (text, v) := v.ask
    let (texts, vs) := askAll vs
    (text :: texts, v :: vs)

end

/-- The value after the text at one place of it was asked for. -/
def askWithin : List Nat → CachedValue → CachedValue
  | [], v => v.ask.2
  | i :: path, .sequence text? items => .sequence text? (items.modify i (askWithin path))
  | _ :: _, v => v

/-- The value as a sequence: null is an absent one, and any other value that is
    no sequence is the only item of a new one. -/
def asSequence : CachedValue → CachedValue
  | .scalar .null _ => .absent none
  | .scalar v h => .sequence none [.scalar v h]
  | v => v

/-- One value is another, or at some depth within it. -/
inductive IsWithin (w : CachedValue) : CachedValue → Prop where
  | self : IsWithin w w
  | item {v : CachedValue} {text? : Option String} {items : List CachedValue} (hv : v ∈ items)
      (h : IsWithin w v) : IsWithin w (.sequence text? items)

/-- A text that is kept is the right one: that of what is absent, or the texts
    of the items, joined in brackets. -/
def KeepsText : CachedValue → Prop
  | .scalar _ _ => True
  | .absent text? => ∀ text ∈ text?, text = Value.nullText
  | .sequence text? items => ∀ text ∈ text?,
      text = Value.bracketed (items.map fun v => v.erase.render)

/-- The texts that are kept, at any depth, are right, and a text is kept together with those
    that it was made of. -/
structure IsSound (v : CachedValue) : Prop where
  keepsText : ∀ w : CachedValue, w.IsWithin v → w.KeepsText
  isClosed : v.erase.IsClosed

/-! ## Induction -/

/-- Induction on what is within a value. -/
@[elab_as_elim]
theorem induction_within {motive : CachedValue → Prop}
    (scalar : ∀ v h, motive (.scalar v h))
    (absent : ∀ text?, motive (.absent text?))
    (sequence : ∀ text? items, (∀ v ∈ items, motive v) → motive (.sequence text? items)) :
    ∀ v, motive v
  | .scalar v h => scalar v h
  | .absent text? => absent text?
  | .sequence text? items => sequence text? items fun v hv =>
      have := List.sizeOf_lt_of_mem hv
      induction_within scalar absent sequence v
termination_by v => sizeOf v
decreasing_by
  rw [CachedValue.sequence.sizeOf_spec]
  omega

variable {v w : CachedValue} {text? : Option String} {items : List CachedValue}

theorem eraseAll_eq_map (vs : List CachedValue) : eraseAll vs = vs.map erase := by
  induction vs with
  | nil => rfl
  | cons v vs ih => rw [eraseAll, ih, List.map_cons]

theorem erase_sequence :
    (CachedValue.sequence text? items).erase = .sequence text?.isSome (items.map erase) := by
  rw [erase, eraseAll_eq_map]

theorem askAll_eq_map (vs : List CachedValue) :
    askAll vs = (vs.map fun v => v.ask.1, vs.map fun v => v.ask.2) := by
  induction vs with
  | nil => rfl
  | cons v vs ih =>
    show (v.ask.1 :: (askAll vs).1, v.ask.2 :: (askAll vs).2) = _
    rw [ih]
    rfl

theorem ask_sequence_none :
    (CachedValue.sequence none items).ask =
      (Value.bracketed (items.map fun v => v.ask.1),
        .sequence (some (Value.bracketed (items.map fun v => v.ask.1)))
          (items.map fun v => v.ask.2)) := by
  show (Value.bracketed (askAll items).1,
    CachedValue.sequence (some (Value.bracketed (askAll items).1)) (askAll items).2) = _
  rw [askAll_eq_map]

/-! ## Values with texts and values with marks -/

/-- **Asking keeps the texts of what is forced.** -/
theorem erase_ask (v : CachedValue) : v.ask.2.erase = v.erase.forced := by
  induction v using induction_within with
  | scalar v h => exact (Value.forced_of_scalar h).symm
  | absent text? => cases text? <;> rfl
  | sequence text? items ih =>
    cases text? with
    | some text => rfl
    | none =>
      rw [ask_sequence_none, erase_sequence, erase_sequence]
      show Value.sequence true _ = .sequence true (Value.forcedAll _)
      rw [Value.forcedAll_eq_map, List.map_map, List.map_map]
      exact congrArg _ (List.map_congr_left ih)

/-- Asking for a text at a path keeps the texts of what is forced there. -/
theorem erase_askWithin (path : List Nat) (v : CachedValue) :
    (v.askWithin path).erase = v.erase.forcedWithin path := by
  induction path generalizing v with
  | nil => exact erase_ask v
  | cons i path ih =>
    cases v with
    | scalar v h =>
      cases v with
      | absent | sequence => exact nomatch h
      | null | bool | int | float | text => rfl
    | absent text? => rfl
    | sequence text? items =>
      show (CachedValue.sequence text? (items.modify i (askWithin path))).erase = _
      rw [erase_sequence, erase_sequence, map_modify fun v _ => ih v]
      rfl

theorem erase_asSequence (v : CachedValue) : v.asSequence.erase = v.erase.asSequence := by
  cases v with
  | scalar v h =>
    cases v with
    | absent | sequence => exact nomatch h
    | null | bool | int | float | text => rfl
  | absent text? => rfl
  | sequence text? items => rfl

/-! ## Soundness -/

theorem forall_isWithin_sequence {P : CachedValue → Prop} :
    (∀ w, IsWithin w (.sequence text? items) → P w) ↔
      P (.sequence text? items) ∧ ∀ v ∈ items, ∀ w, IsWithin w v → P w := by
  constructor
  · exact fun h => ⟨h _ .self, fun v hv w hw => h w (.item hv hw)⟩
  · rintro ⟨hself, hitems⟩ w hw
    cases hw with
    | self => exact hself
    | item hv hw => exact hitems _ hv w hw

theorem isSound_scalar {v : Value} (h : v.isRendered? = none) : IsSound (.scalar v h) where
  keepsText := by
    intro w hw
    cases hw with
    | self => trivial
  isClosed := Value.isClosed_of_scalar h

theorem isSound_absent (h : ∀ text ∈ text?, text = Value.nullText) : IsSound (.absent text?) where
  keepsText := by
    intro w hw
    cases hw with
    | self => exact h
  isClosed := Value.isClosed_absent

theorem isSound_sequence_none (h : ∀ v ∈ items, IsSound v) : IsSound (.sequence none items) where
  keepsText := forall_isWithin_sequence.mpr ⟨nofun, fun v hv => (h v hv).keepsText⟩
  isClosed := by
    rw [erase_sequence, Value.isClosed_sequence_iff]
    refine ⟨nofun, fun v hv => ?_⟩
    obtain ⟨item, hitem, rfl⟩ := List.mem_map.mp hv
    exact (h item hitem).isClosed

theorem IsSound.item (h : IsSound (.sequence text? items)) (hv : v ∈ items) : v.IsSound where
  keepsText := (forall_isWithin_sequence.mp h.keepsText).2 v hv
  isClosed := by
    have hclosed := h.isClosed
    rw [erase_sequence, Value.isClosed_sequence_iff] at hclosed
    exact hclosed.2 _ (List.mem_map_of_mem hv)

/-- **The text of a value is the one that it would be given afresh.** -/
theorem IsSound.text_ask (h : v.IsSound) : v.ask.1 = v.erase.render := by
  induction v using induction_within with
  | scalar v hscalar => rfl
  | absent text? =>
    cases text? with
    | none => rfl
    | some text => exact h.keepsText _ .self text rfl
  | sequence text? items ih =>
    have htexts : (CachedValue.sequence text? items).erase.render
        = Value.bracketed (items.map fun v => v.erase.render) := by
      rw [erase_sequence, Value.render, Value.renderAll_eq_map, List.map_map]
      rfl
    rw [htexts]
    cases text? with
    | some text => exact h.keepsText _ .self text rfl
    | none =>
      rw [ask_sequence_none]
      exact congrArg Value.bracketed (List.map_congr_left fun v hv => ih v hv (h.item hv))

/-- **Asking for the text of a value keeps all texts right.** -/
theorem IsSound.ask (h : v.IsSound) : v.ask.2.IsSound where
  isClosed := by
    rw [erase_ask]
    exact h.isClosed.isAllRendered_forced.isClosed
  keepsText := by
    induction v using induction_within with
    | scalar v hscalar => exact h.keepsText
    | absent text? =>
      cases text? with
      | some text => exact h.keepsText
      | none => exact (isSound_absent fun _ htext => (Option.some.inj htext).symm).keepsText
    | sequence text? items ih =>
      cases text? with
      | some text => exact h.keepsText
      | none =>
        rw [ask_sequence_none, forall_isWithin_sequence]
        refine ⟨fun text htext => ?_, fun w hw => ?_⟩
        · rw [← Option.some.inj htext, List.map_map]
          refine congrArg _ (List.map_congr_left fun v hv => ?_)
          -- asking an item gives its fresh text and does not change it
          show v.ask.1 = v.ask.2.erase.render
          rw [(h.item hv).text_ask, erase_ask, Value.render_forced]
        · obtain ⟨v, hv, rfl⟩ := List.mem_map.mp hw
          exact ih v hv (h.item hv)

/-- **Asking for a text anywhere keeps all texts right.** -/
theorem IsSound.askWithin (h : v.IsSound) (path : List Nat) : (v.askWithin path).IsSound where
  isClosed := by
    rw [erase_askWithin]
    exact h.isClosed.forcedWithin path
  keepsText := by
    induction path generalizing v with
    | nil => exact h.ask.keepsText
    | cons i path ih =>
      cases v with
      | scalar | absent => exact h.keepsText
      | sequence text? items =>
        refine forall_isWithin_sequence.mpr ⟨?_, fun w hw => ?_⟩
        · have htexts : (items.modify i (CachedValue.askWithin path)).map (fun v => v.erase.render)
              = items.map fun v => v.erase.render := by
            rw [map_modify (k := id), List.modify_id]
            intro v hv
            rw [erase_askWithin, Value.render_forcedWithin]
            rfl
          show ∀ text ∈ text?, text = _
          rw [htexts]
          exact h.keepsText _ .self
        · rcases mem_or_eq_of_mem_modify hw with hw | ⟨v, hv, rfl⟩
          · exact (h.item hw).keepsText
          · exact ih (h.item hv)

/-- Seen as a sequence, a value keeps its texts right. -/
theorem IsSound.asSequence (h : v.IsSound) : v.asSequence.IsSound where
  isClosed := by
    rw [erase_asSequence]
    exact h.isClosed.asSequence
  keepsText := by
    have hnone : IsSound (.absent none) := isSound_absent nofun
    have hone : IsSound (.sequence none [v]) :=
      isSound_sequence_none fun w hw => List.mem_singleton.mp hw ▸ h
    cases v with
    | scalar v hscalar =>
      cases v with
      | null => exact hnone.keepsText
      | bool | int | float | text => exact hone.keepsText
      | absent | sequence => exact nomatch hscalar
    | absent | sequence => exact h.keepsText

end CachedValue

end StructuredLog
