import StructuredLog.Proofs.Message.Forcing
import StructuredLog.Proofs.Value.Caching

/-! # On demand — field lists whose values keep their texts

    A message is written from left to right, and each placeholder asks the first
    field of its name for its text, which fills the cells within that value.
    Without the texts this is the message of the list, and the list after it
    (`erase_message`).

    Values and lists arise from each other, in whatever order a program uses
    them.  All that arises keeps right texts (`CachedFields.Arises.isSound`), so
    no sequence is rendered but on demand (`sequences_render_on_demand`). -/

namespace StructuredLog

open Template

/-- A field list whose values keep the texts of their sequences. -/
structure CachedFields where
  fields : List (String × CachedValue)
  template : String

/-- A value fit for a field that is shown in the given way. -/
def FieldRendering.adaptCached : FieldRendering → CachedValue → CachedValue
  | .plain, v => v
  | .lazySequence, v => v.asSequence

/-- The fields, with a mark for each text that is kept. -/
def eraseFields (fields : List (String × CachedValue)) : List (String × Value) :=
  fields.map fun field => (field.1, field.2.erase)

/-- The text of the first field of a name, and the fields afterwards. -/
def askNamed (name : String) :
    List (String × CachedValue) → Option (String × List (String × CachedValue))
  | [] => none
  | (key, v) :: rest =>
    if key = name then some (v.ask.1, (key, v.ask.2) :: rest)
    else (askNamed name rest).map fun (text, rest) => (text, (key, v) :: rest)

/-- The message of segments, written from left to right, and the fields afterwards. -/
def fillSegments :
    List Segment → List (String × CachedValue) → Rendering × List (String × CachedValue)
  | [], fields => (.ok "", fields)
  | .literal text :: rest, fields =>
    let (message, fields) := fillSegments rest fields
    (message.map (text ++ ·), fields)
  | .hole p :: rest, fields =>
    match askNamed p.name fields with
    | none =>
      let (message, fields) := fillSegments rest fields
      (message.map (p.written ++ ·), fields)
    | some (text, fields) =>
      if p.isTooWide then (.error .widthOutOfRange, fields)
      else
        let (message, fields) := fillSegments rest fields
        (message.map (p.fit text ++ ·), fields)

namespace CachedFields

/-- The list, with a mark for each text that is kept. -/
def erase (list : CachedFields) : FieldList :=
  ⟨eraseFields list.fields, list.template⟩

/-- The values as the fields of a layout. -/
def ofLayout (layout : FieldLayout) (values : List CachedValue) :
    Except PayloadError CachedFields :=
  let slots := layout.parameterFields
  if slots.length = values.length then
    .ok ⟨slots.zipWith (fun slot v => (slot.name, slot.rendering.adaptCached v)) values,
      layout.template⟩
  else .error (.valueCountMismatch slots.length values.length)

/-- All entries in order, the raw template last. -/
def entries (list : CachedFields) : List (String × CachedValue) :=
  list.fields ++ [(rawTemplateName, .scalar (.text list.template) rfl)]

/-- The number of entries. -/
def size (list : CachedFields) : Nat :=
  list.fields.length + 1

/-- The entry at an index. -/
def get (list : CachedFields) (index : Nat) : Except FieldOutOfRange (String × CachedValue) :=
  match list.entries[index]? with
  | some entry => .ok entry
  | none => .error ⟨index, list.size⟩

/-- The value of the first entry of a name. -/
def find? (list : CachedFields) (name : String) : Option CachedValue :=
  list.entries.lookup name

/-- Equality of lists; texts that are kept do not count. -/
def same (list other : CachedFields) : Bool :=
  list.erase.same other.erase

/-- The message, and the list afterwards. -/
def message (list : CachedFields) : Rendering × CachedFields :=
  let (message, fields) := fillSegments (segments list.template) list.fields
  (message, { list with fields })

/-- What a list is used for. -/
inductive Use where
  | get (index : Nat)
  | find (name : String)
  | iterate
  | count
  | copy
  | compare (other : CachedFields)
  /-- To ask for the text at one place of an entry. -/
  | ask (index : Nat) (path : List Nat)
  | message

/-- Whether the use asks for a text. -/
def Use.asksForText : Use → Bool
  | .ask _ _ | .message => true
  | _ => false

/-- The list after a use of it. -/
def after (list : CachedFields) : Use → CachedFields
  | .ask index path =>
    { list with
      fields := list.fields.modify index fun field => (field.1, field.2.askWithin path) }
  | .message => list.message.2
  | .get _ | .find _ | .iterate | .count | .copy | .compare _ => list

end CachedFields

mutual

/-- The values that a program can come to hold. -/
inductive CachedValue.Arises : CachedValue → Prop where
  | scalar (v : Value) (h : v.isRendered? = none) : CachedValue.Arises (.scalar v h)
  | absent : CachedValue.Arises (.absent none)
  | sequence {items : List CachedValue} (h : ∀ v ∈ items, CachedValue.Arises v) :
      CachedValue.Arises (.sequence none items)
  | ask {v : CachedValue} (path : List Nat) (h : CachedValue.Arises v) :
      CachedValue.Arises (v.askWithin path)
  | item {v : CachedValue} {text? : Option String} {items : List CachedValue}
      (h : CachedValue.Arises (.sequence text? items)) (hv : v ∈ items) : CachedValue.Arises v
  | field {list : CachedFields} {field : String × CachedValue} (h : CachedFields.Arises list)
      (hfield : field ∈ list.fields) : CachedValue.Arises field.2

/-- The field lists that a program can come to hold. -/
inductive CachedFields.Arises : CachedFields → Prop where
  | ofLayout {layout : FieldLayout} {values : List CachedValue} {list : CachedFields}
      (hvalues : ∀ v ∈ values, CachedValue.Arises v)
      (h : CachedFields.ofLayout layout values = .ok list) : CachedFields.Arises list
  | ofPairs {fields : List (String × CachedValue)} (template : String)
      (h : ∀ field ∈ fields, CachedValue.Arises field.2) : CachedFields.Arises ⟨fields, template⟩
  | after {list : CachedFields} (use : CachedFields.Use) (h : CachedFields.Arises list) :
      CachedFields.Arises (list.after use)

end

/-- The texts that the fields keep are right. -/
def AreSound (fields : List (String × CachedValue)) : Prop :=
  ∀ field ∈ fields, field.2.IsSound

variable {fields : List (String × CachedValue)} {name text : String}

/-! ## Messages -/

/-- Where there is no field of a name, there is none without the texts. -/
theorem lookup_eraseFields_of_askNamed (h : askNamed name fields = none) :
    (eraseFields fields).lookup name = none := by
  induction fields with
  | nil => rfl
  | cons field rest ih =>
    obtain ⟨key, v⟩ := field
    rw [askNamed] at h
    split at h
    · exact nomatch h
    · next hkey =>
      show (_ :: _).lookup name = none
      rw [List.lookup_cons, beq_false_of_ne (Ne.symm hkey)]
      exact ih (Option.map_eq_none_iff.mp h)

/-- Asking for the text of the first field of a name forces that field. -/
theorem askNamed_eq_some {after : List (String × CachedValue)} (hfields : AreSound fields)
    (h : askNamed name fields = some (text, after)) :
    ((eraseFields fields).lookup name).map Value.render = some text ∧
      eraseFields after = FieldList.forceNamed [name] (eraseFields fields) ∧ AreSound after := by
  induction fields generalizing after with
  | nil => exact nomatch h
  | cons field rest ih =>
    obtain ⟨key, v⟩ := field
    obtain ⟨hv, hrest⟩ := List.forall_mem_cons.mp hfields
    show ((((key, v.erase) :: eraseFields rest).lookup name).map Value.render = some text) ∧
      eraseFields after = FieldList.forceNamed [name] ((key, v.erase) :: eraseFields rest) ∧ _
    rw [askNamed] at h
    split at h
    · next hkey =>
      obtain ⟨rfl, rfl⟩ := Prod.mk.inj (Option.some.inj h)
      subst hkey
      rw [List.lookup_cons, beq_self_eq_true, FieldList.forceNamed_singleton_self,
        ← CachedValue.erase_ask]
      exact ⟨congrArg some hv.text_ask.symm, rfl, List.forall_mem_cons.mpr ⟨hv.ask, hrest⟩⟩
    · next hkey =>
      obtain ⟨⟨text', rest'⟩, hasked, h⟩ := Option.map_eq_some_iff.mp h
      obtain ⟨rfl, rfl⟩ := Prod.mk.inj h
      obtain ⟨htext, herase, hsound⟩ := ih hrest hasked
      rw [List.lookup_cons, beq_false_of_ne (Ne.symm hkey),
        FieldList.forceNamed_singleton_of_ne hkey, ← herase]
      exact ⟨htext, rfl, List.forall_mem_cons.mpr ⟨hv, hsound⟩⟩

/-- **Filling the segments asks for the texts of the visited fields, and of no others**: the
    message is the one of the fields without their texts, and the texts that are kept stay right. -/
theorem fillSegments_eq (hfields : AreSound fields) (segments : List Segment) :
    let fill (p : Placeholder) := (eraseFields fields).lookup p.name
    let after := fillSegments segments fields
    after.1 = renderSegments (fun p => (fill p).map Value.render) segments ∧
      eraseFields after.2 = FieldList.forceNamed
        ((visitedHoles (fun p => (fill p).isSome) segments).map Placeholder.name)
        (eraseFields fields) ∧
      AreSound after.2 := by
  induction segments generalizing fields with
  | nil => exact ⟨rfl, (FieldList.forceNamed_nil _).symm, hfields⟩
  | cons segment rest ih =>
    cases segment with
    | literal text =>
      obtain ⟨hmessage, herase, hsound⟩ := ih hfields
      exact ⟨congrArg (Except.map (text ++ ·)) hmessage, herase, hsound⟩
    | hole p =>
      dsimp only
      rw [renderSegments, visitedHoles]
      cases hasked : askNamed p.name fields with
      | none =>
        obtain ⟨hmessage, herase, hsound⟩ := ih hfields
        rw [lookup_eraseFields_of_askNamed hasked, fillSegments, hasked]
        exact ⟨congrArg (Except.map (p.written ++ ·)) hmessage, herase, hsound⟩
      | some asked =>
        obtain ⟨text, after⟩ := asked
        obtain ⟨htext, herase, hsound⟩ := askNamed_eq_some hfields hasked
        have hsome : ((eraseFields fields).lookup p.name).isSome = true := by
          rw [← Option.isSome_map (f := Value.render), htext]
          rfl
        rw [htext, hsome, fillSegments, hasked]
        cases hwide : p.isTooWide with
        | true => exact ⟨rfl, herase, hsound⟩
        | false =>
          -- what the rest finds in the fields is not changed by what was asked
          obtain ⟨hmessage, hrest, hsound'⟩ := ih hsound
          simp only [herase, FieldList.lookup_forceNamed Value.render_unmarked] at hmessage
          simp only [herase, FieldList.isSome_lookup_forceNamed] at hrest
          rw [← FieldList.forceNamed_cons] at hrest
          exact ⟨congrArg (Except.map (p.fit text ++ ·)) hmessage, hrest, hsound'⟩

namespace CachedFields

variable {list : CachedFields}

/-- **A list that keeps texts has the message of the list without them**, and is afterwards what
    that list is, with texts. -/
theorem erase_message (h : AreSound list.fields) :
    list.message.1 = list.erase.message ∧ list.message.2.erase = list.erase.afterMessage := by
  obtain ⟨hmessage, herase, -⟩ := fillSegments_eq h (segments list.template)
  exact ⟨hmessage, congrArg (FieldList.mk · list.template) herase⟩

theorem areSound_message (h : AreSound list.fields) : AreSound list.message.2.fields :=
  (fillSegments_eq h (segments list.template)).2.2

/-- A use of the list keeps the texts of its values right. -/
theorem areSound_after (h : AreSound list.fields) (use : Use) :
    AreSound (list.after use).fields := by
  cases use with
  | message => exact areSound_message h
  | ask index path =>
    intro field hfield
    rcases mem_or_eq_of_mem_modify hfield with hfield | ⟨field', hfield', rfl⟩
    · exact h field hfield
    · exact (h field' hfield').askWithin path
  | get | find | iterate | count | copy | compare => exact h

/-! ## Building and reading -/

theorem erase_adaptCached (rendering : FieldRendering) (v : CachedValue) :
    (rendering.adaptCached v).erase = rendering.adapt v.erase := by
  cases rendering with
  | plain => rfl
  | lazySequence => exact v.erase_asSequence

theorem isSound_adaptCached {v : CachedValue} (rendering : FieldRendering) (h : v.IsSound) :
    (rendering.adaptCached v).IsSound := by
  cases rendering with
  | plain => exact h
  | lazySequence => exact h.asSequence

/-- A list over a layout holds the same values with and without their texts. -/
theorem erase_ofLayout {layout : FieldLayout} {values : List CachedValue}
    (h : ofLayout layout values = .ok list) :
    FieldList.ofLayout layout (values.map CachedValue.erase) = .ok list.erase := by
  rw [ofLayout] at h
  split at h
  · next hlength =>
    obtain rfl := Except.ok.inj h
    rw [FieldList.ofLayout, List.length_map, if_pos hlength, List.zipWith_map_right]
    refine congrArg (fun fields => Except.ok (FieldList.mk fields layout.template)) ?_
    show _ = eraseFields _
    rw [eraseFields, List.map_zipWith]
    simp only [erase_adaptCached]
  · cases h

/-- A list over a layout holds right texts where its values do. -/
theorem areSound_ofLayout {layout : FieldLayout} {values : List CachedValue}
    (hvalues : ∀ v ∈ values, v.IsSound) (h : ofLayout layout values = .ok list) :
    AreSound list.fields := by
  rw [ofLayout] at h
  split at h
  · obtain rfl := Except.ok.inj h
    intro field hfield
    obtain ⟨i, hi⟩ := List.mem_iff_getElem?.mp hfield
    obtain ⟨slot, v, -, hv, rfl⟩ := List.getElem?_zipWith_eq_some.mp hi
    exact isSound_adaptCached slot.rendering (hvalues v (List.mem_of_getElem? hv))
  · cases h

theorem erase_entries (list : CachedFields) : list.erase.entries = eraseFields list.entries := by
  rw [entries, eraseFields, List.map_append]
  rfl

theorem erase_get (list : CachedFields) (i : Nat) :
    list.erase.get i = (list.get i).map fun entry => (entry.1, entry.2.erase) := by
  rw [FieldList.get, get, erase_entries, eraseFields, List.getElem?_map]
  cases list.entries[i]? with
  | none =>
    show Except.error _ = Except.error _
    rw [FieldList.size, size, erase, eraseFields, List.length_map]
  | some entry => rfl

theorem erase_find? (list : CachedFields) (name : String) :
    list.erase.find? name = (list.find? name).map CachedValue.erase := by
  rw [FieldList.find?, find?, erase_entries, eraseFields, lookup_map_snd]

end CachedFields

mutual

theorem CachedValue.Arises.isSound {v : CachedValue} : v.Arises → v.IsSound
  | .scalar _ h => CachedValue.isSound_scalar h
  | .absent => CachedValue.isSound_absent nofun
  | .sequence h => CachedValue.isSound_sequence_none fun v hv => (h v hv).isSound
  | .ask path h => h.isSound.askWithin path
  | .item h hv => h.isSound.item hv
  | .field h hfield => h.isSound _ hfield

theorem CachedFields.Arises.isSound {list : CachedFields} : list.Arises → AreSound list.fields
  | .ofLayout hvalues h =>
    CachedFields.areSound_ofLayout (fun v hv => (hvalues v hv).isSound) h
  | .ofPairs _ h => fun field hfield => (h field hfield).isSound
  | .after use h => CachedFields.areSound_after h.isSound use

end

/-! ## On demand -/

/-- What a list renders, and what it does not. -/
structure CachedFields.RendersOnDemand (list : CachedFields) : Prop where
  /-- The texts that are kept, at whatever depth, are right. -/
  keepsTexts : ∀ entry ∈ list.entries, ∀ w : CachedValue, w.IsWithin entry.2 → w.KeepsText
  silent : ∀ use : Use, use.asksForText = false → list.after use = list
  /-- What is read off has the marks that the list has. -/
  get_eq : ∀ i, list.erase.get i = (list.get i).map fun entry => (entry.1, entry.2.erase)
  find?_eq : ∀ name, list.erase.find? name = (list.find? name).map CachedValue.erase
  entries_eq : list.erase.entries = eraseFields list.entries
  size_eq : list.erase.size = list.size
  /-- Marks do not matter to equality. -/
  same_eq : ∀ other : CachedFields,
    list.same other = list.erase.unmarked.same other.erase.unmarked
  message_eq : list.message.1 = list.erase.message
  afterMessage_eq : list.message.2.erase = list.erase.afterMessage
  /-- Names and items are as before. -/
  contents_eq : list.message.2.erase.unmarked = list.erase.unmarked
  rendered_iff : ∀ text, list.message.1 = .ok text → ∀ i path,
    (list.message.2.erase.IsRenderedAt i path ↔ list.erase.IsRenderedAt i path ∨
      (list.erase.IsShown i ∧ list.erase.IsSequenceAt i path))

/-- **A list whose texts are right renders on demand.** -/
theorem CachedFields.rendersOnDemand {list : CachedFields} (h : AreSound list.fields) :
    list.RendersOnDemand := by
  obtain ⟨hmessage, hafter⟩ := erase_message h
  constructor
  case keepsTexts =>
    intro entry hentry
    rcases List.mem_append.mp hentry with hfield | hlast
    · exact (h entry hfield).keepsText
    · obtain rfl := List.mem_singleton.mp hlast
      exact (CachedValue.isSound_scalar rfl).keepsText
  case silent =>
    intro use huse
    cases use with
    | ask | message => exact nomatch huse
    | get | find | iterate | count | copy | compare => rfl
  case get_eq => exact erase_get list
  case find?_eq => exact erase_find? list
  case entries_eq => exact erase_entries list
  case size_eq => exact congrArg (· + 1) (List.length_map _)
  case same_eq => exact fun other => (FieldList.same_unmarked list.erase other.erase).symm
  case message_eq => exact hmessage
  case afterMessage_eq => exact hafter
  case contents_eq => exact hafter ▸ FieldList.unmarked_afterMessage list.erase
  case rendered_iff =>
    intro text htext i path
    rw [hafter]
    refine FieldList.isRenderedAt_afterMessage_iff (hmessage ▸ htext) fun field hfield => ?_
    obtain ⟨cached, hcached, rfl⟩ := List.mem_map.mp hfield
    exact (h cached hcached).isClosed

/-- **Sequences are rendered on demand.**  A list that a program can come to hold keeps right
    texts; reading, copying and comparing it render nothing; and its message renders the
    sequences in the first field of each placeholder's name.  Nor does building a list
    from values render any. -/
theorem sequences_render_on_demand {list : CachedFields} (h : list.Arises) :
    list.RendersOnDemand ∧
      ∀ layout values built, CachedFields.ofLayout layout values = .ok built →
        FieldList.ofLayout layout (values.map CachedValue.erase) = .ok built.erase ∧
          ∀ i path, built.erase.IsRenderedAt i path ↔
            ∃ v, values[i]? = some v ∧ v.erase.IsRenderedAt path := by
  refine ⟨CachedFields.rendersOnDemand h.isSound, fun layout values built hbuilt => ?_⟩
  have herase := CachedFields.erase_ofLayout hbuilt
  refine ⟨herase, fun i path => ?_⟩
  rw [FieldList.isRenderedAt_ofLayout_iff herase, List.getElem?_map]
  cases values[i]? with
  | none => exact iff_of_false (fun h => nomatch h) (fun h => nomatch h)
  | some v => simp

/-- Two fields of one name, of which the first has a sequence within a sequence. -/
def nestedFields : CachedFields where
  fields := [("xs", .sequence none [.absent none]), ("xs", .absent none)]
  template := "\x7bxs\x7d, \x7bys\x7d"

/-- The message renders the sequence within the first field, and leaves the second field alone. -/
theorem sequences_render_on_demand_nested :
    nestedFields.Arises ∧ nestedFields.RendersOnDemand ∧
      nestedFields.message.1 = .ok "[(null)], \x7bys\x7d" ∧
      nestedFields.message.2.erase.IsRenderedAt 0 [0] ∧
      ¬ nestedFields.message.2.erase.IsRenderedAt 1 [] := by
  have harises : nestedFields.Arises := by
    refine .ofPairs _ (List.forall_mem_cons.mpr ⟨.sequence ?_, ?_⟩)
    · exact fun v hv => List.mem_singleton.mp hv ▸ .absent
    · exact fun field hfield => List.mem_singleton.mp hfield ▸ .absent
  have hrenders := (sequences_render_on_demand harises).1
  have hmessage : nestedFields.message.1 = .ok "[(null)], \x7bys\x7d" := by decide +kernel
  refine ⟨harises, hrenders, hmessage, ?_, ?_⟩
  · refine (hrenders.rendered_iff _ hmessage 0 [0]).mpr (.inr ⟨?_, _, rfl, _, rfl, rfl⟩)
    exact ⟨⟨"xs", 0, 0, 4, none⟩, by decide +kernel, by decide +kernel⟩
  · rw [hrenders.rendered_iff _ hmessage]
    rintro (⟨_, hentry, _, hw, hmark⟩ | ⟨hshown, -⟩)
    · obtain rfl := Option.some.inj hentry
      obtain rfl := Option.some.inj hw
      exact nomatch hmark
    · have hentry : nestedFields.erase.entries[1]? = some ("xs", .absent false) := rfl
      exact ((FieldList.isShown_iff hentry).mp hshown).2 List.mem_cons_self

end StructuredLog
