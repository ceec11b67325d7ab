import Mathlib.Data.List.Nodup
import StructuredLog.Identifier.ParameterNames

/-! # Naming — what the parameters of a generated method are called

    A parameter is named after its placeholder, if that can name it, or by its
    position (`parameterNames_cases`).  So no name starts with the reserved
    character or is that of a special parameter, and placeholders that can name
    their parameters all do, as long as none is repeated
    (`parameterNames_eq_self`). -/

namespace StructuredLog.Identifier

variable {reservedInitial : Char}

theorem head?_positionalName (position n : Nat) :
    (positionalName position n).toList.head? = some 'a' := by
  have hbase : ("arg" ++ toString position).toList
      = 'a' :: 'r' :: 'g' :: (toString position).toList :=
    String.toList_append
  rw [positionalName]
  by_cases hn : n ≤ 1
  · rw [if_pos hn, hbase]
    rfl
  · rw [if_neg hn, String.toList_append, String.toList_append, hbase]
    rfl

/-- A placeholder that can lend its name to a parameter. -/
def CanName (reservedInitial : Char) (placeholder : String) : Prop :=
  isIdentifier placeholder = true ∧ startsReserved reservedInitial placeholder = false
    ∧ placeholder ∉ specialNames

instance (reservedInitial : Char) (placeholder : String) :
    Decidable (CanName reservedInitial placeholder) :=
  inferInstanceAs (Decidable (_ ∧ _ ∧ _))

/-- The search for a free name ends at a positional one, also when its tries are used up. -/
theorem exists_freePositionalFrom (taken : List String) (position tries n : Nat) :
    ∃ m, freePositionalFrom taken position tries n = positionalName position m := by
  induction tries generalizing n with
  | zero => exact ⟨n, rfl⟩
  | succ tries ih =>
      rw [freePositionalFrom]
      by_cases htaken : taken.contains (positionalName position n) = true
      · rw [if_pos htaken]
        exact ih (n + 1)
      · rw [if_neg htaken]
        exact ⟨n, rfl⟩

/-- A parameter has the name of a usable placeholder, or a positional name. -/
theorem parameterName_cases (reservedInitial : Char) (taken : List String) (position : Nat)
    (placeholder? : Option String) :
    isUsable reservedInitial taken
        (parameterName reservedInitial taken position placeholder?) = true ∨
      ∃ n, parameterName reservedInitial taken position placeholder?
        = positionalName position n := by
  rw [parameterName]
  cases husable : placeholder?.filter (isUsable reservedInitial taken) with
  | none => exact .inr (exists_freePositionalFrom taken position taken.length 1)
  | some placeholder => exact .inl (Option.filter_eq_some_iff.mp husable).2

/-- Every name that is handed out could be lent by a placeholder, or is a positional one. -/
theorem parameterNamesFrom_cases {taken placeholders : List String} {position count : Nat}
    {name : String} (htaken : specialNames ⊆ taken)
    (hname : name ∈ parameterNamesFrom reservedInitial taken position count placeholders) :
    CanName reservedInitial name ∨ ∃ position n, name = positionalName position n := by
  induction count generalizing taken position placeholders with
  | zero => exact nomatch hname
  | succ count ih =>
      rw [parameterNamesFrom] at hname
      rcases List.mem_cons.mp hname with rfl | hlater
      · rcases parameterName_cases reservedInitial taken position placeholders.head?
          with husable | hpositional
        · simp only [isUsable, Bool.and_eq_true, Bool.not_eq_true'] at husable
          obtain ⟨⟨hidentifier, hfree⟩, hnew⟩ := husable
          refine .inl ⟨hidentifier, hfree, ?_⟩
          intro hspecial
          rw [List.contains_iff_mem.mpr (htaken hspecial)] at hnew
          injection hnew
        · exact .inr ⟨position, hpositional⟩
      · exact ih (List.subset_cons_of_subset _ htaken) hlater

/-- **Every parameter has a good name**, or a positional one. -/
theorem parameterNames_cases {placeholders : List String} {count : Nat} {name : String}
    (hname : name ∈ parameterNames reservedInitial placeholders count) :
    CanName reservedInitial name ∨ ∃ position n, name = positionalName position n :=
  parameterNamesFrom_cases (List.Subset.refl _) hname

/-- **No parameter has a reserved name.** -/
theorem startsReserved_parameterNames (h : reservedInitial ≠ 'a') {placeholders : List String}
    {count : Nat} {name : String}
    (hname : name ∈ parameterNames reservedInitial placeholders count) :
    startsReserved reservedInitial name = false := by
  rcases parameterNames_cases hname with hgood | ⟨position, n, rfl⟩
  · exact hgood.2.1
  · rw [startsReserved, head?_positionalName]
    exact beq_false_of_ne fun heq => h (Option.some.inj heq).symm

/-- **No argument has the name of a special parameter.** -/
theorem not_mem_specialNames_of_mem_parameterNames {placeholders : List String} {count : Nat}
    {name : String} (hname : name ∈ parameterNames reservedInitial placeholders count) :
    name ∉ specialNames := by
  rcases parameterNames_cases hname with hgood | ⟨position, n, rfl⟩
  · exact hgood.2.2
  · intro hspecial
    have hinitial : ∀ special ∈ specialNames, special.toList.head? ≠ some 'a' := by decide
    exact hinitial _ hspecial (head?_positionalName position n)

/-- Distinct placeholders that can all be used lend their names, each to the parameter at its
    position. -/
theorem parameterNamesFrom_eq_self {placeholders taken : List String} (position : Nat)
    (husable : ∀ p ∈ placeholders, isUsable reservedInitial taken p = true)
    (hdistinct : placeholders.Nodup) :
    parameterNamesFrom reservedInitial taken position placeholders.length placeholders
      = placeholders := by
  induction placeholders generalizing taken position with
  | nil => rfl
  | cons p ps ih =>
      obtain ⟨hp, hps⟩ := List.nodup_cons.mp hdistinct
      have hname : parameterName reservedInitial taken position (some p) = p := by
        rw [parameterName, Option.filter_some, if_pos (husable p List.mem_cons_self)]
      rw [List.length_cons, parameterNamesFrom, List.head?_cons, List.tail_cons]
      rw [hname, ih (position + 1) ?_ hps]
      -- the placeholders to come are other names than the one just taken
      intro q hq
      have hfree := husable q (List.mem_cons_of_mem p hq)
      simp only [isUsable, Bool.and_eq_true, Bool.not_eq_true', List.contains_cons,
        Bool.or_eq_false_iff] at hfree ⊢
      exact ⟨hfree.1, beq_false_of_ne (ne_of_mem_of_not_mem hq hp), hfree.2⟩

/-- **Good placeholders name the parameters.** -/
theorem parameterNames_eq_self {placeholders : List String}
    (hgood : ∀ p ∈ placeholders, CanName reservedInitial p) (hdistinct : placeholders.Nodup) :
    parameterNames reservedInitial placeholders placeholders.length = placeholders := by
  refine parameterNamesFrom_eq_self 0 ?_ hdistinct
  intro p hp
  obtain ⟨hidentifier, hfree, hspecial⟩ := hgood p hp
  have hnew : specialNames.contains p = false :=
    Bool.eq_false_iff.mpr fun h => hspecial (List.contains_iff_mem.mp h)
  rw [isUsable, hidentifier, hfree, hnew]
  rfl

end StructuredLog.Identifier
