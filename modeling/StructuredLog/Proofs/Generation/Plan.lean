import StructuredLog.Generation.Method
import StructuredLog.Proofs.Statement.Correspondence

/-! # Plans — what a generated method is made of

    A plan comes out of generation exactly when the checks find no error and
    the level has a source.  Its statement then repeats the declaration, and
    its payload is the one that the statement calls for
    (`plan?_generate_eq_some_iff`); everything else about plans is read off
    these two facts. -/

namespace StructuredLog.Declaration

variable {system : TypeSystem} {options : GeneratorOptions} {d : Declaration}
  {plan : MethodPlan}

/-- A declaration has a plan exactly when it is usable and has a level. -/
theorem plan?_generate_eq_some_iff :
    (d.generate system options).plan? = some plan ↔
      isUsable (problems system options d (d.arguments system)) = true ∧
        ∃ level, d.levelSource? system = some level ∧
          plan = ⟨d.statement system level, (d.statement system level).payload system options⟩ := by
  rw [generate]
  by_cases husable : isUsable (problems system options d (d.arguments system)) = true
  · rw [if_pos husable, and_iff_right husable]
    cases d.levelSource? system with
    | none =>
        refine ⟨(nomatch ·), ?_⟩
        rintro ⟨level, hlevel, -⟩
        exact nomatch hlevel
    | some level =>
        constructor
        · intro h
          exact ⟨level, rfl, (Option.some.inj h).symm⟩
        · rintro ⟨level', hlevel, hplan⟩
          cases hlevel
          rw [hplan]
  · rw [if_neg husable]
    exact ⟨(nomatch ·), fun h => absurd h.1 husable⟩

theorem statement_of_plan? (h : (d.generate system options).plan? = some plan) :
    ∃ level, d.levelSource? system = some level ∧ plan.statement = d.statement system level := by
  obtain ⟨-, level, hlevel, rfl⟩ := plan?_generate_eq_some_iff.mp h
  exact ⟨level, hlevel, rfl⟩

theorem payload_of_plan? (h : (d.generate system options).plan? = some plan) :
    plan.payload = plan.statement.payload system options := by
  obtain ⟨-, level, -, rfl⟩ := plan?_generate_eq_some_iff.mp h
  rfl

theorem template_of_plan? (h : (d.generate system options).plan? = some plan) :
    plan.statement.template = d.marking.message := by
  obtain ⟨level, -, hs⟩ := statement_of_plan? h
  rw [hs]
  rfl

theorem placeholders_of_plan? (h : (d.generate system options).plan? = some plan) :
    plan.statement.placeholders = Template.names d.marking.message := by
  obtain ⟨level, -, hs⟩ := statement_of_plan? h
  rw [hs]
  rfl

theorem arguments_of_plan? (h : (d.generate system options).plan? = some plan) :
    plan.statement.arguments = d.arguments system := by
  obtain ⟨level, -, hs⟩ := statement_of_plan? h
  rw [hs]
  rfl

/-- The level of a plan is constant exactly if the mark gives one, and then it is that one. -/
theorem constant?_of_plan? (h : (d.generate system options).plan? = some plan) :
    plan.statement.level.constant? = d.marking.level? := by
  obtain ⟨source, hsource, hs⟩ := statement_of_plan? h
  rw [hs]
  show source.constant? = _
  rw [levelSource?] at hsource
  cases hlevel : d.marking.level? with
  | some level =>
      rw [hlevel] at hsource
      rw [← Option.some.inj hsource]
      rfl
  | none =>
      rw [hlevel] at hsource
      obtain ⟨a, -, rfl⟩ := Option.map_eq_some_iff.mp hsource
      rfl

/-- A positional payload stands for arguments that line up, at most as many as
    the options allow. -/
theorem positional_of_plan? (h : (d.generate system options).plan? = some plan)
    {types : List TypeName} (hpayload : plan.payload = .positional types) :
    plan.statement.regular.length ≤ options.maxPositional ∧ plan.statement.linesUp = true
      ∧ types = plan.statement.regular.map Argument.type := by
  rw [payload_of_plan? h, Statement.payload_eq_positional_iff,
    Statement.positionalTypes?_eq_some_iff] at hpayload
  obtain ⟨hcount, -, hlines, htypes⟩ := hpayload
  exact ⟨hcount, hlines, htypes⟩

/-- A payload is positional when the arguments are few, the level is constant, and the
    arguments line up. -/
theorem exists_positional_iff (h : (d.generate system options).plan? = some plan) :
    (∃ types, plan.payload = .positional types) ↔
      plan.statement.regular.length ≤ options.maxPositional ∧ d.marking.level?.isSome = true
        ∧ plan.statement.linesUp = true := by
  rw [payload_of_plan? h, ← constant?_of_plan? h]
  simp only [Statement.payload_eq_positional_iff, Statement.positionalTypes?_eq_some_iff,
    exists_and_left, exists_eq, and_true]

theorem fields_of_plan? (h : (d.generate system options).plan? = some plan)
    {layout : FieldLayout} (hpayload : plan.payload = .fields layout) :
    layout = plan.statement.layout system := by
  rw [payload_of_plan? h, Statement.payload_eq_fields_iff] at hpayload
  exact hpayload.2

end StructuredLog.Declaration
