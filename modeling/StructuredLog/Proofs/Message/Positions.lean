import StructuredLog.Proofs.Message.Filling

/-! # Positions — when placeholders show the arguments in order

    A method shows its arguments in order when each placeholder is filled from
    the argument at its own position.  For this, the arguments have to line up
    with the placeholders, and if fields are looked up by name, no two may be
    equal up to ASCII case (`source?_eq_position_iff`). -/

namespace StructuredLog

open Template Text

variable {system : TypeSystem} {options : GeneratorOptions} {d : Declaration}
  {plan : MethodPlan} {values : List Value}

/-- Among fields, a placeholder that is filled from its own position equals the
    argument there, and none before it. -/
theorem sameFolded_of_source?_eq_position
    (h : (d.generate system options).plan? = some plan) {layout : FieldLayout}
    (hpayload : plan.payload = .fields layout) {p : Placeholder}
    (hp : p ∈ placeholders d.marking.message) (hsource : plan.source? p = some p.position)
    {i : Nat} {a : Argument} (ha : plan.statement.regular[i]? = some a) :
    (i = p.position → sameFolded a.name p.name = true) ∧
      (i < p.position → sameFolded a.name p.name = false) := by
  rw [source?_of_fields h hpayload hp] at hsource
  by_cases hfirst : plan.statement.fieldName p.name = p.name
  · rw [if_pos hfirst, List.findIdx?_eq_some_iff_getElem] at hsource
    obtain ⟨hposition, hhere, hbefore⟩ := hsource
    obtain ⟨hi, rfl⟩ := List.getElem?_eq_some_iff.mp ha
    constructor
    · rintro rfl
      exact hhere
    · intro hlt
      exact Bool.eq_false_iff.mpr (hbefore i hlt)
  · rw [if_neg hfirst] at hsource
    exact nomatch hsource

/-- **Placeholders show the arguments in order** exactly when the arguments line up
    and either go by position or differ by more than case. -/
theorem source?_eq_position_iff (h : (d.generate system options).plan? = some plan)
    (hcount : (placeholders d.marking.message).length = plan.statement.regular.length) :
    (∀ p ∈ placeholders d.marking.message, plan.source? p = some p.position) ↔
      plan.statement.linesUp = true ∧
        ((∃ types, plan.payload = .positional types) ∨ plan.statement.HasDistinctNames) := by
  cases hpayload : plan.payload with
  | positional types =>
      obtain ⟨-, hlines, -⟩ := Declaration.positional_of_plan? h hpayload
      refine iff_of_true ?_ ⟨hlines, .inl ⟨types, rfl⟩⟩
      intro p _
      simp only [MethodPlan.source?, hpayload]
  | fields layout =>
      have hnames : plan.statement.placeholders = names d.marking.message :=
        Declaration.placeholders_of_plan? h
      constructor
      · intro hsource
        -- the placeholder at a position, with what its source says
        have hat : ∀ (i j : Nat) (a : Argument), plan.statement.regular[i]? = some a →
            ∀ q, plan.statement.placeholders[j]? = some q →
              (i = j → sameFolded a.name q = true) ∧ (i < j → sameFolded a.name q = false) := by
          intro i j a ha q hq
          rw [hnames, names, List.getElem?_map, Option.map_eq_some_iff] at hq
          obtain ⟨p, hp, rfl⟩ := hq
          rw [← position_of_getElem?_placeholders hp]
          exact sameFolded_of_source?_eq_position h hpayload (List.mem_of_getElem? hp)
            (hsource p (List.mem_of_getElem? hp)) ha
        have hlength : plan.statement.placeholders.length = plan.statement.regular.length := by
          rw [hnames, length_names, hcount]
        refine ⟨Statement.linesUp_iff.mpr ⟨hlength, fun i a q ha hq => (hat i i a ha q hq).1 rfl⟩,
          .inr (List.pairwise_iff_getElem.mpr ?_)⟩
        -- an earlier argument equal to this one would be found for its placeholder
        intro i j hi hj hij
        rw [List.length_map] at hi hj
        have hq := List.getElem?_eq_getElem (hlength ▸ hj)
        have hbefore := (hat i j _ (List.getElem?_eq_getElem hi) _ hq).2 hij
        have hhere := (hat j j _ (List.getElem?_eq_getElem hj) _ hq).1 rfl
        rw [List.getElem_map, List.getElem_map]
        intro heq
        rw [sameFolded_iff] at hhere
        exact absurd (sameFolded_iff.mpr (heq.trans hhere)) (hbefore ▸ Bool.false_ne_true)
      · rintro ⟨hlines, ⟨types, hfalse⟩ | hdistinct⟩
        · injection hfalse
        · intro p hp
          have hq : plan.statement.placeholders[p.position]? = some p.name := by
            rw [hnames]
            exact getElem?_names_position hp
          simp only [MethodPlan.source?, hpayload]
          rw [Declaration.fields_of_plan? h hpayload]
          exact Statement.findIdx?_fields_name_of_linesUp system hdistinct hlines hq

/-- A placeholder that is filled from its own position shows the argument there. -/
theorem filling?_of_source?_eq_position (h : (d.generate system options).plan? = some plan)
    (hvalues : values.length = plan.statement.regular.length)
    (hcount : (placeholders d.marking.message).length = plan.statement.regular.length)
    {p : Placeholder} (hp : p ∈ placeholders d.marking.message)
    (hsource : plan.source? p = some p.position) :
    ∃ a v, plan.statement.regular[p.position]? = some a ∧ values[p.position]? = some v ∧
      plan.filling? values p = some (plan.payload.shown system a.type v).render := by
  have hposition : p.position < plan.statement.regular.length := by
    rw [← hcount]
    exact (List.getElem?_eq_some_iff.mp (getElem?_placeholders_position hp)).1
  have ha := List.getElem?_eq_getElem hposition
  have hv := List.getElem?_eq_getElem (hvalues.symm ▸ hposition)
  refine ⟨_, _, ha, hv, ?_⟩
  rw [MethodPlan.filling?, hsource, Option.bind_some, getElem?_carried h ha hv]
  rfl

end StructuredLog
