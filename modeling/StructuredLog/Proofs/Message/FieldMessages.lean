import StructuredLog.Proofs.Generation.Mentions
import StructuredLog.Proofs.Message.NamedPlaceholders

/-! # Field messages — what a list of named fields says

    A field takes its name from the first placeholder that equals its argument
    up to ASCII case; a placeholder then looks for the first field of exactly
    its own name.  Two fields may come to have one name, and a placeholder may
    have none.  When no two arguments are equal up to case neither happens to
    an argument's own placeholders: a placeholder that is spelled like the
    first of its kind shows the argument it equals, and every other one stays
    as written (`source?_of_distinct`, `source?_eq_none`).  So the message is
    the template's text with the values in place of these placeholders, and an
    argument that no warning calls unused is in it (`fields_message_shows`). -/

namespace StructuredLog

open Template Text

/-! ## The text of a field -/

/-- The text of a value in a field of a type.  In a field of a sequence type null is an
    absent sequence, and any other value that is no sequence the only element of one. -/
def TypeSystem.fieldText (system : TypeSystem) (type : TypeName) (v : Value) : String :=
  if system.isSequence type then
    if v.isNull then "(null)"
    else if v.isRendered?.isSome then v.render
    else "[" ++ v.render ++ "]"
  else v.render

theorem Value.render_asSequence_of_scalar {v : Value} (hnull : v.isNull = false)
    (hsequence : v.isRendered? = none) : v.asSequence.render = "[" ++ v.render ++ "]" := by
  have hone : bracketed [v.render] = "[" ++ v.render ++ "]" := by
    rw [bracketed, String.intercalate_singleton]
  rw [← hone]
  cases v with
  | null => exact absurd hnull.symm Bool.false_ne_true
  | absent rendered => exact absurd hsequence (Option.some_ne_none _)
  | sequence rendered items => exact absurd hsequence (Option.some_ne_none _)
  | bool b => rfl
  | int n => rfl
  | float x => rfl
  | text s => rfl

/-- Fields show values by their texts as fields. -/
theorem PayloadPlan.render_shown_fields (system : TypeSystem) (layout : FieldLayout)
    (type : TypeName) (v : Value) :
    ((PayloadPlan.fields layout).shown system type v).render = system.fieldText type v := by
  show (if system.isSequence type then v.asSequence else v).render = _
  rw [TypeSystem.fieldText]
  by_cases htype : system.isSequence type = true
  · rw [if_pos htype, if_pos htype]
    cases hnull : v.isNull with
    | true =>
        rw [Value.render_asSequence (.inl hnull)]
        cases v with
        | null => rfl
        | _ => exact absurd hnull Bool.false_ne_true
    | false =>
        cases hsequence : v.isRendered? with
        | none => exact Value.render_asSequence_of_scalar hnull hsequence
        | some rendered => exact Value.render_asSequence (.inr (hsequence ▸ rfl))
  · rw [if_neg htype, if_neg htype]

/-! ## Which argument a placeholder shows -/

variable {system : TypeSystem} {options : GeneratorOptions} {d : Declaration}
  {plan : MethodPlan} {values : List Value} {layout : FieldLayout} {p : Placeholder}

/-- Among arguments of distinct names, a placeholder of the first spelling has the one
    that equals it as its source. -/
theorem source?_of_distinct (h : (d.generate system options).plan? = some plan)
    (hpayload : plan.payload = .fields layout) (hdistinct : plan.statement.HasDistinctNames)
    (hp : p ∈ placeholders d.marking.message) (hfirst : IsFirstSpelling d.marking.message p)
    {i : Nat} {a : Argument} (ha : plan.statement.regular[i]? = some a)
    (hsame : sameFolded a.name p.name = true) : plan.source? p = some i := by
  rw [source?_of_fields h hpayload hp, if_pos ((isFirstSpelling_iff_fieldName h hp).mp hfirst)]
  refine Statement.findIdx?_eq_some_of_unique ha hsame ?_
  intro j b hb hbp
  refine hdistinct.index_eq hb ha ?_
  rw [sameFolded_congr hsame]
  exact hbp

/-- A placeholder that equals no argument, or of which another spelling comes first, has
    no source. -/
theorem source?_eq_none (h : (d.generate system options).plan? = some plan)
    (hpayload : plan.payload = .fields layout) (hp : p ∈ placeholders d.marking.message)
    (hother : ∀ a ∈ plan.statement.regular, sameFolded a.name p.name = true →
      ¬ IsFirstSpelling d.marking.message p) : plan.source? p = none := by
  rw [source?_of_fields h hpayload hp]
  by_cases hfirst : plan.statement.fieldName p.name = p.name
  · rw [if_pos hfirst, List.findIdx?_eq_none_iff]
    intro a ha
    rw [Bool.eq_false_iff]
    exact fun hsame => hother a ha hsame ((isFirstSpelling_iff_fieldName h hp).mpr hfirst)
  · rw [if_neg hfirst]

/-- Of the placeholders that equal a name up to case, one is spelled like the first. -/
theorem exists_firstSpelling {template name : String}
    (h : ∃ q ∈ names template, sameFolded q name = true) :
    ∃ p ∈ placeholders template, sameFolded name p.name = true ∧ IsFirstSpelling template p := by
  have hfound : ((names template).find? (sameFolded · name)).isSome = true := by
    obtain ⟨q, hq, hsame⟩ := h
    exact List.find?_isSome.mpr ⟨q, hq, hsame⟩
  obtain ⟨first, hfirst⟩ := Option.isSome_iff_exists.mp hfound
  obtain ⟨p, hp, rfl⟩ := List.mem_map.mp (List.mem_of_find?_eq_some hfirst)
  have hsame : sameFolded p.name name = true :=
    List.find?_some (p := fun q => sameFolded q name) hfirst
  refine ⟨p, hp, by rw [sameFolded_comm]; exact hsame, ?_⟩
  rw [IsFirstSpelling, ← hfirst]
  exact congrArg (List.find? · _) (funext fun q => sameFolded_congr hsame q)

/-! ## The message -/

/-- **What a method of named fields says.**  If no two of its arguments are equal up to
    ASCII case and its message has a text, this is the template with its escapes
    undone and a text in place of each placeholder: the value of the argument that
    equals it, padded as it asks, if it is spelled like the first placeholder of its
    kind, and otherwise the placeholder itself.  So every regular argument that is
    not reported as unused is shown. -/
theorem fields_message_shows (hplan : (d.generate system options).plan? = some plan)
    (hpayload : plan.payload = .fields layout) (hdistinct : plan.statement.HasDistinctNames)
    (hvalues : values.length = plan.statement.regular.length) {text : String}
    (htext : (FieldList.ofLayout layout values).map FieldList.message = .ok (.ok text)) :
    ∃ shown : Placeholder → String,
      text = String.join ((segments d.marking.message).map (Segment.replaced shown)) ∧
      (∀ p ∈ placeholders d.marking.message,
        (∀ (i : Nat) (a : Argument) (v : Value), plan.statement.regular[i]? = some a →
          values[i]? = some v → sameFolded a.name p.name = true →
          IsFirstSpelling d.marking.message p →
            shown p = p.fit (system.fieldText a.type v)) ∧
        ((∀ a ∈ plan.statement.regular, sameFolded a.name p.name = true →
          ¬ IsFirstSpelling d.marking.message p) → shown p = p.written)) ∧
      ∀ (i : Nat) (a : Argument) (v : Value), plan.statement.regular[i]? = some a →
        values[i]? = some v → unusedWarning a ∉ (d.generate system options).diagnostics →
          ∃ p ∈ placeholders d.marking.message, sameFolded a.name p.name = true ∧
            shown p = p.fit (system.fieldText a.type v) := by
  have hshows : ∀ p ∈ placeholders d.marking.message, ∀ (i : Nat) (a : Argument) (v : Value),
      plan.statement.regular[i]? = some a → values[i]? = some v →
      sameFolded a.name p.name = true → IsFirstSpelling d.marking.message p →
        p.filled (plan.filling? values p) = p.fit (system.fieldText a.type v) := by
    intro p hp i a v ha hv hsame hfirst
    rw [MethodPlan.filling?, source?_of_distinct hplan hpayload hdistinct hp hfirst ha hsame,
      Option.bind_some, getElem?_carried hplan ha hv, Option.map_some, hpayload,
      PayloadPlan.render_shown_fields]
    rfl
  rw [message_of_fields hplan hpayload hvalues] at htext
  obtain ⟨-, hjoin⟩ := renderSegments_eq_ok_iff.mp (Except.ok.inj htext)
  refine ⟨fun p => p.filled (plan.filling? values p), hjoin, ?_, ?_⟩
  · intro p hp
    refine ⟨hshows p hp, ?_⟩
    intro hother
    show p.filled (plan.filling? values p) = _
    rw [filling?_eq_none_of_source? (source?_eq_none hplan hpayload hp hother)]
    rfl
  · intro i a v ha hv hnot
    have hmem : a ∈ regularArguments (d.arguments system) := by
      have := List.mem_of_getElem? ha
      rwa [Statement.regular, Declaration.arguments_of_plan? hplan] at this
    obtain ⟨p, hp, hsame, hfirst⟩ :=
      exists_firstSpelling (exists_mention_of_not_warned hmem hnot)
    exact ⟨p, hp, hsame, hshows p hp i a v ha hv hsame hfirst⟩

/-- A method of fields whose template spells its arguments in several ways, names a
    stranger and leaves one argument out. -/
def delivery : Declaration where
  name := "Delivery"
  parameters :=
    [{ name := "logger", type := "ILogger" }, { name := "items", type := "IEnumerable" },
      { name := "total", type := "int" }, { name := "note", type := "string" }]
  marking :=
    { eventId := 3
      level? := some .debug
      message := "\x7b\x7b\x7bItems,8\x7d\x7d\x7d \x7bTOTAL,-3\x7d|\x7bitems\x7d \x7btruck\x7d" }

/-- The plan of the delivery. -/
def deliveryPlan : MethodPlan :=
  let statement := delivery.statement TypeFacts.conventional.system (.constant .debug)
  ⟨statement, .fields (statement.layout TypeFacts.conventional.system)⟩

/-- The first spelling of a name shows its field, and any other spelling stays as written. -/
theorem fields_message_shows_delivery :
    (delivery.generate TypeFacts.conventional.system {}).plan? = some deliveryPlan ∧
      ∃ shown : Placeholder → String,
        "\x7b  (null)\x7d 7  |\x7bitems\x7d \x7btruck\x7d"
          = String.join ((segments delivery.marking.message).map (Segment.replaced shown)) ∧
        shown ⟨"Items", 0, 2, 11, some ",8"⟩ = "  (null)" ∧
        shown ⟨"items", 2, 25, 32, none⟩ = "\x7bitems\x7d" ∧
        ∃ p ∈ placeholders delivery.marking.message, sameFolded "total" p.name = true ∧
          shown p = p.fit "7" := by
  have hplan : (delivery.generate TypeFacts.conventional.system {}).plan? = some deliveryPlan := by
    decide +kernel
  refine ⟨hplan, ?_⟩
  obtain ⟨shown, hjoin, hshown, hused⟩ := fields_message_shows hplan rfl
    (show (deliveryPlan.statement.regular.map _).Nodup by decide +kernel)
    (show [Value.null, .int 7, .text "n"].length = _ by decide +kernel)
    (show _ = Except.ok (Except.ok "\x7b  (null)\x7d 7  |\x7bitems\x7d \x7btruck\x7d") by
      decide +kernel)
  refine ⟨shown, hjoin, ?_, ?_, ?_⟩
  · refine ((hshown _ (by decide +kernel)).1 0 ⟨"items", "IEnumerable", .regular, .nowhere⟩ .null
      (by decide +kernel) rfl (by decide +kernel) ?_).trans (by decide +kernel)
    show (names delivery.marking.message).find? _ = some "Items"
    decide +kernel
  · refine ((hshown _ (by decide +kernel)).2 ?_).trans (by decide +kernel)
    intro a _ _
    show ¬ (names delivery.marking.message).find? _ = some "items"
    decide +kernel
  · obtain ⟨p, hp, hsame, hp'⟩ := hused 1 ⟨"total", "int", .regular, .nowhere⟩ (.int 7)
      (by decide +kernel) rfl (by decide +kernel)
    exact ⟨p, hp, hsame, hp'.trans (congrArg p.fit (by decide +kernel))⟩

end StructuredLog
