import StructuredLog.Generation.Rendering
import StructuredLog.Proofs.Generation.Plan
import StructuredLog.Proofs.Template.Holes

/-! # Fillings — which argument fills which placeholder

    Both payloads fill the placeholders of one template with values of regular
    arguments, and differ only in how a placeholder finds its argument: by its
    position, or by the name of a field.  `source?` is that search, `carried`
    are the values as the payload holds them, and a generated method renders
    its template filled accordingly (`render_of_plan?`): its payload is never
    refused. -/

namespace StructuredLog

open Template

/-! ## Looking up by position in a list of keys -/

/-- Looking up a key among paired lists is finding its position in the one and
    going to it in the other. -/
theorem lookup_zipWith_prodMk {α β γ : Type} (key : α → String) (f : α → β → γ)
    (as : List α) (bs : List β) (hlen : as.length = bs.length) (name : String) :
    (as.zipWith (fun a b => (key a, f a b)) bs).lookup name
      = (as.findIdx? (key · == name)).bind fun i => (as.zipWith f bs)[i]? := by
  induction as generalizing bs with
  | nil => rfl
  | cons a as ih =>
      cases bs with
      | nil => exact nomatch hlen
      | cons b bs =>
          rw [List.zipWith_cons_cons, List.zipWith_cons_cons, List.lookup_cons,
            List.findIdx?_cons]
          -- the one side compares the name to the key, the other the key to the name
          by_cases hname : key a = name
          · rw [beq_iff_eq.mpr hname, beq_iff_eq.mpr hname.symm]
            rfl
          · rw [beq_false_of_ne hname, beq_false_of_ne (Ne.symm hname),
              ih bs (Nat.succ.inj hlen)]
            cases as.findIdx? (key · == name) with
            | none => rfl
            | some i => rfl

/-! ## Sources -/

namespace MethodPlan

/-- The index, among the regular arguments, of the one that fills a placeholder. -/
def source? (plan : MethodPlan) (p : Placeholder) : Option Nat :=
  match plan.payload with
  | .positional _ => some p.position
  | .fields layout => layout.parameterFields.findIdx? (·.name == p.name)

/-- The values of the regular arguments as the payload carries them. -/
def carried (plan : MethodPlan) (values : List Value) : List Value :=
  match plan.payload with
  | .positional _ => values
  | .fields layout =>
    layout.parameterFields.zipWith (fun field v => field.rendering.adapt v) values

/-- The text that fills a placeholder; none when no argument does. -/
def filling? (plan : MethodPlan) (values : List Value) (p : Placeholder) : Option String :=
  ((plan.source? p).bind fun i => (plan.carried values)[i]?).map Value.render

end MethodPlan

/-- A value of a type as a payload shows it: fields show sequences lazily. -/
def PayloadPlan.shown (system : TypeSystem) (payload : PayloadPlan) (type : TypeName) (v : Value) :
    Value :=
  match payload with
  | .positional _ => v
  | .fields _ => if system.isSequence type then v.asSequence else v

/-- A placeholder is filled with the value of this argument. -/
def MethodPlan.Shows (plan : MethodPlan) (system : TypeSystem) (values : List Value)
    (p : Placeholder) (a : Argument) : Prop :=
  ∃ (i : Nat) (v : Value), plan.statement.regular[i]? = some a ∧ values[i]? = some v ∧
    plan.filling? values p = some (plan.payload.shown system a.type v).render

/-- A value that an argument of a type can have: for a sequence type, a
    sequence or null. -/
def TypeSystem.Admits (system : TypeSystem) (type : TypeName) (v : Value) : Prop :=
  system.isSequence type = true → v.isNull = true ∨ v.isRendered?.isSome = true

/-- A sequence, and null, have the text of their lazy form. -/
theorem Value.render_asSequence {v : Value} (h : v.isNull = true ∨ v.isRendered?.isSome = true) :
    v.asSequence.render = v.render := by
  cases v with
  | null => rfl
  | absent rendered => rfl
  | sequence rendered items => rfl
  | bool _ | int _ | float _ | text _ => exact h.elim (nomatch ·) (nomatch ·)

/-- Values that their type admits are shown by their own text. -/
theorem PayloadPlan.render_shown {system : TypeSystem} {type : TypeName} {v : Value}
    (payload : PayloadPlan) (h : system.Admits type v) :
    (payload.shown system type v).render = v.render := by
  cases payload with
  | positional types => rfl
  | fields layout =>
      show (if system.isSequence type then v.asSequence else v).render = v.render
      by_cases hsequence : system.isSequence type = true
      · rw [if_pos hsequence]
        exact Value.render_asSequence (h hsequence)
      · rw [if_neg hsequence]

/-- A field adapts its value by the type of its argument. -/
theorem adapt_field (system : TypeSystem) (s : Statement) (a : Argument) (v : Value) :
    (s.field system a).rendering.adapt v
      = if system.isSequence a.type then v.asSequence else v := by
  rw [show (s.field system a).rendering
    = if system.isSequence a.type then .lazySequence else .plain from rfl]
  by_cases hsequence : system.isSequence a.type = true
  · rw [if_pos hsequence, if_pos hsequence]
    rfl
  · rw [if_neg hsequence, if_neg hsequence]
    rfl

theorem getElem?_parameterFields_layout {system : TypeSystem} {s : Statement} {i : Nat}
    {a : Argument} (ha : s.regular[i]? = some a) :
    (s.layout system).parameterFields[i]? = some (s.field system a) := by
  rw [show (s.layout system).parameterFields = s.regular.map (s.field system) from rfl,
    List.getElem?_map, ha]
  rfl

theorem getElem?_zipWith_adapt {system : TypeSystem} {s : Statement} {values : List Value}
    {i : Nat} {a : Argument} {v : Value} (ha : s.regular[i]? = some a)
    (hv : values[i]? = some v) :
    ((s.layout system).parameterFields.zipWith (fun field v => field.rendering.adapt v) values)[i]?
      = some (if system.isSequence a.type then v.asSequence else v) := by
  rw [List.getElem?_zipWith, getElem?_parameterFields_layout ha, hv]
  exact congrArg some (adapt_field system s a v)

variable {system : TypeSystem} {options : GeneratorOptions} {d : Declaration}
  {plan : MethodPlan} {values : List Value}

/-! ## What generated methods carry and show -/

/-- The payload carries the value of an argument as it shows it. -/
theorem getElem?_carried (h : (d.generate system options).plan? = some plan) {i : Nat}
    {a : Argument} {v : Value} (ha : plan.statement.regular[i]? = some a)
    (hv : values[i]? = some v) :
    (plan.carried values)[i]? = some (plan.payload.shown system a.type v) := by
  rw [MethodPlan.carried]
  cases hpayload : plan.payload with
  | positional types => exact hv
  | fields layout =>
      rw [Declaration.fields_of_plan? h hpayload]
      exact getElem?_zipWith_adapt ha hv

/-- A placeholder shows the argument that is its source. -/
theorem shows_of_source? (h : (d.generate system options).plan? = some plan)
    (hvalues : values.length = plan.statement.regular.length) {p : Placeholder} {i : Nat}
    {a : Argument} (hsource : plan.source? p = some i)
    (ha : plan.statement.regular[i]? = some a) : plan.Shows system values p a := by
  have hi : i < values.length := hvalues ▸ (List.getElem?_eq_some_iff.mp ha).1
  have hv : values[i]? = some values[i] := List.getElem?_eq_getElem hi
  refine ⟨i, values[i], ha, hv, ?_⟩
  rw [MethodPlan.filling?, hsource, Option.bind_some, getElem?_carried h ha hv]
  rfl

theorem filling?_eq_none_of_source? {p : Placeholder} (hsource : plan.source? p = none) :
    plan.filling? values p = none := by
  rw [MethodPlan.filling?, hsource]
  rfl

/-- Where fields are looked up by name, the sources of a placeholder are the
    arguments that equal it up to ASCII case, unless a placeholder of another
    spelling comes first. -/
theorem source?_of_fields (h : (d.generate system options).plan? = some plan)
    {layout : FieldLayout} (hpayload : plan.payload = .fields layout) {p : Placeholder}
    (hp : p ∈ placeholders d.marking.message) :
    plan.source? p =
      if plan.statement.fieldName p.name = p.name then
        plan.statement.regular.findIdx? (Text.sameFolded ·.name p.name)
      else none := by
  have hmem : p.name ∈ plan.statement.placeholders := by
    rw [Declaration.placeholders_of_plan? h]
    exact mem_names_of_mem hp
  simp only [MethodPlan.source?, hpayload]
  rw [Declaration.fields_of_plan? h hpayload]
  exact Statement.findIdx?_fields_name system hmem

/-! ## Messages -/

/-- A template with one placeholder for each of a few arguments has a formatter. -/
theorem ofTemplate_eq_ok {template : String} {arity : Nat} (harity : arity ≤ maxFormatterArity)
    (hcount : (placeholders template).length = arity) :
    Formatter.ofTemplate template arity = .ok ⟨template, hcount ▸ harity⟩ := by
  rw [Formatter.ofTemplate, dif_pos harity, dif_pos hcount]

/-- A formatter takes one value for each placeholder. -/
theorem format_eq_ok {f : Formatter} (hvalues : values.length = f.arity) :
    f.format values
      = .ok (renderSegments (fun p => values[p.position]?.map Value.render)
          (segments f.template)) := by
  rw [Formatter.format, if_pos hvalues]

theorem format_ofTemplate {template : String} {arity : Nat}
    (harity : arity ≤ maxFormatterArity) (hcount : (placeholders template).length = arity)
    (hvalues : values.length = arity) :
    (Formatter.ofTemplate template arity).bind (·.format values)
      = .ok (renderSegments (fun p => values[p.position]?.map Value.render)
          (segments template)) := by
  rw [ofTemplate_eq_ok harity hcount]
  exact format_eq_ok (hvalues.trans hcount.symm)

/-- Values fit a layout when there is one for each field. -/
theorem ofLayout_eq_ok {layout : FieldLayout}
    (hvalues : values.length = layout.parameterFields.length) :
    FieldList.ofLayout layout values
      = .ok ⟨layout.parameterFields.zipWith (fun slot v => (slot.name, slot.rendering.adapt v))
          values, layout.template⟩ := by
  rw [FieldList.ofLayout, if_pos hvalues.symm]

/-- The message of fitting values looks up a placeholder's name among the fields. -/
theorem message_ofLayout {layout : FieldLayout}
    (hvalues : values.length = layout.parameterFields.length) :
    (FieldList.ofLayout layout values).map FieldList.message
      = .ok (renderSegments (fun p =>
          ((layout.parameterFields.findIdx? (·.name == p.name)).bind fun i =>
            (layout.parameterFields.zipWith (fun field v => field.rendering.adapt v)
              values)[i]?).map Value.render) (segments layout.template)) := by
  rw [ofLayout_eq_ok hvalues]
  show Except.ok (renderSegments _ _) = _
  refine congrArg (fun fill => Except.ok (renderSegments fill _)) ?_
  funext p
  rw [lookup_zipWith_prodMk ParameterField.name (fun field v => field.rendering.adapt v)
    _ _ hvalues.symm]

theorem length_placeholders_of_positional
    (h : (d.generate system options).plan? = some plan) {types : List TypeName}
    (hpayload : plan.payload = .positional types) :
    (placeholders d.marking.message).length = plan.statement.regular.length := by
  obtain ⟨-, hlines, -⟩ := Declaration.positional_of_plan? h hpayload
  have hcount := (Statement.linesUp_iff.mp hlines).1
  rw [Declaration.placeholders_of_plan? h, length_names] at hcount
  exact hcount

theorem length_parameterFields_of_fields
    (h : (d.generate system options).plan? = some plan) {layout : FieldLayout}
    (hpayload : plan.payload = .fields layout) :
    layout.parameterFields.length = plan.statement.regular.length := by
  rw [Declaration.fields_of_plan? h hpayload]
  exact List.length_map _

/-- The message of a method's fields fills its template from the sources. -/
theorem message_of_fields (h : (d.generate system options).plan? = some plan)
    {layout : FieldLayout} (hpayload : plan.payload = .fields layout)
    (hvalues : values.length = plan.statement.regular.length) :
    (FieldList.ofLayout layout values).map FieldList.message
      = .ok (renderSegments (plan.filling? values) (segments d.marking.message)) := by
  have hmessage : layout.template = d.marking.message := by
    rw [Declaration.fields_of_plan? h hpayload, ← Declaration.template_of_plan? h]
    rfl
  rw [message_ofLayout (hvalues.trans (length_parameterFields_of_fields h hpayload).symm),
    hmessage]
  refine congrArg (fun fill => Except.ok (renderSegments fill _)) ?_
  funext p
  simp only [MethodPlan.filling?, MethodPlan.source?, MethodPlan.carried, hpayload]

/-- **A generated method always renders**: given one value for each regular
    argument, its template filled from the sources. -/
theorem render_of_plan? (hmax : options.maxPositional ≤ maxFormatterArity)
    (h : (d.generate system options).plan? = some plan)
    (hvalues : values.length = plan.statement.regular.length) :
    plan.render values
      = .ok (renderSegments (plan.filling? values) (segments d.marking.message)) := by
  have htemplate := Declaration.template_of_plan? h
  cases hpayload : plan.payload with
  | positional types =>
      obtain ⟨hcount, -, rfl⟩ := Declaration.positional_of_plan? h hpayload
      have hplaceholders := length_placeholders_of_positional h hpayload
      have hfill : plan.filling? values = fun p => values[p.position]?.map Value.render := by
        funext p
        simp only [MethodPlan.filling?, MethodPlan.source?, MethodPlan.carried, hpayload,
          Option.bind_some]
      rw [MethodPlan.render, hpayload, hfill, htemplate]
      simp only [List.length_map]
      exact format_ofTemplate (Nat.le_trans hcount hmax) hplaceholders hvalues
  | fields layout =>
      rw [MethodPlan.render, hpayload]
      exact message_of_fields h hpayload hvalues

/-- **What a generated method renders has a text** where every width that a filled
    placeholder asks for is served or ignored. -/
theorem exists_text_of_plan? (hmax : options.maxPositional ≤ maxFormatterArity)
    (h : (d.generate system options).plan? = some plan)
    (hvalues : values.length = plan.statement.regular.length)
    (hwidths : ∀ p ∈ placeholders d.marking.message, (plan.filling? values p).isSome = true →
      ∀ n, p.AsksFor n → n.natAbs ≤ 65535 ∨ 1000000 ≤ n.natAbs) :
    ∃ text, plan.render values = .ok (.ok text) := by
  rw [render_of_plan? hmax h hvalues]
  cases hmessage : renderSegments (plan.filling? values) (segments d.marking.message) with
  | ok text => exact ⟨text, rfl⟩
  | error e =>
      obtain ⟨p, hp, hfilled, n, hasks, hwide, hlimit⟩ := renderSegments_refused_iff.mp hmessage
      rcases hwidths p hp hfilled n hasks with hserved | hignored
      · exact absurd hserved (Nat.not_le.mpr hwide)
      · exact absurd hignored (Nat.not_le.mpr hlimit)

end StructuredLog
