import Mathlib.Data.List.Forall2
import StructuredLog.Statement.Basic

/-! # Correspondence — which placeholder belongs to which argument

    Two rules decide it, and both leave ASCII case aside.  Arguments line up
    with the placeholders when each equals the placeholder at its position.
    A field takes its name from the first placeholder that equals its argument,
    so all spellings of one name lead to the first of them: a placeholder has
    fields of its name exactly when it is spelled like that first one, and
    they are then the fields of all arguments that equal it
    (`fieldName_eq_iff`). -/

namespace StructuredLog.Statement

open Text

variable {system : TypeSystem} {s : Statement}

/-! ## Lining up -/

/-- Arguments line up exactly when there is one placeholder for each of them,
    equal to it up to ASCII case. -/
theorem linesUp_iff : s.linesUp = true ↔ s.placeholders.length = s.regular.length ∧
    ∀ (i : Nat) (a : Argument) (p : String), s.regular[i]? = some a →
      s.placeholders[i]? = some p → sameFolded a.name p = true := by
  simp only [linesUp, Bool.and_eq_true, beq_iff_eq, List.all_eq_true]
  refine and_congr_right fun _ => ⟨?_, ?_⟩
  · intro h i a p ha hp
    exact h (a, p) (List.mem_of_getElem? (List.getElem?_zip_eq_some.mpr ⟨ha, hp⟩))
  · intro h x hx
    obtain ⟨i, hi⟩ := List.mem_iff_getElem?.mp hx
    obtain ⟨ha, hp⟩ := List.getElem?_zip_eq_some.mp hi
    exact h i x.1 x.2 ha hp

theorem linesUp_iff_forall₂ : s.linesUp = true ↔
    List.Forall₂ (fun name q => sameFolded name q = true) (s.regular.map Argument.name)
      s.placeholders := by
  rw [List.forall₂_map_left_iff, List.forall₂_iff_zip, linesUp, Bool.and_eq_true, beq_iff_eq,
    List.all_eq_true, eq_comm]
  exact and_congr_right fun _ => ⟨fun h a q hx => h (a, q) hx, fun h x hx => h hx⟩

/-- Passing by position asks for few arguments, a constant level, and arguments
    that line up. -/
theorem positionalTypes?_eq_some_iff {options : GeneratorOptions} {types : List TypeName} :
    s.positionalTypes? options = some types ↔
      s.regular.length ≤ options.maxPositional ∧ s.level.constant?.isSome = true
        ∧ s.linesUp = true ∧ types = s.regular.map Argument.type := by
  simp only [positionalTypes?, Option.ite_none_right_eq_some, Bool.and_eq_true,
    decide_eq_true_eq, Option.some.injEq, and_assoc, eq_comm (a := types)]

theorem payload_eq_positional_iff {options : GeneratorOptions} {types : List TypeName} :
    s.payload system options = .positional types ↔ s.positionalTypes? options = some types := by
  rw [payload]
  cases s.positionalTypes? options with
  | none => exact ⟨(nomatch ·), (nomatch ·)⟩
  | some found => rw [PayloadPlan.positional.injEq, Option.some.injEq]

theorem payload_eq_fields_iff {options : GeneratorOptions} {layout : FieldLayout} :
    s.payload system options = .fields layout ↔
      s.positionalTypes? options = none ∧ layout = s.layout system := by
  rw [payload]
  cases s.positionalTypes? options with
  | none => rw [PayloadPlan.fields.injEq, eq_comm]; exact (and_iff_right rfl).symm
  | some found => exact ⟨(nomatch ·), fun h => nomatch h.1⟩

/-! ## Field names -/

theorem sameFolded_fieldName (s : Statement) (argument : String) :
    sameFolded (s.fieldName argument) argument = true := by
  rw [fieldName]
  cases h : s.placeholders.find? (sameFolded · argument) with
  | none => exact sameFolded_self argument
  | some found => exact List.find?_some (p := fun q => sameFolded q argument) h

/-- An argument and a placeholder that spell one name have one field. -/
theorem fieldName_congr {argument placeholder : String} (hp : placeholder ∈ s.placeholders)
    (h : sameFolded argument placeholder = true) :
    s.fieldName argument = s.fieldName placeholder := by
  have hsame : (fun q => sameFolded q argument) = fun q => sameFolded q placeholder :=
    funext fun q => sameFolded_congr h q
  have hfound : (s.placeholders.find? fun q => sameFolded q placeholder).isSome = true :=
    List.find?_isSome.mpr ⟨placeholder, hp, sameFolded_self placeholder⟩
  obtain ⟨first, hfirst⟩ := Option.isSome_iff_exists.mp hfound
  rw [fieldName, fieldName, hsame, hfirst]
  rfl

/-- A placeholder names the field of an argument exactly when the two are equal
    up to ASCII case and the placeholder is spelled like the first of its kind. -/
theorem fieldName_eq_iff {argument placeholder : String} (hp : placeholder ∈ s.placeholders) :
    s.fieldName argument = placeholder ↔
      sameFolded argument placeholder = true ∧ s.fieldName placeholder = placeholder := by
  constructor
  · intro h
    have hsame : sameFolded argument placeholder = true := by
      rw [sameFolded_comm, ← h]
      exact sameFolded_fieldName s argument
    exact ⟨hsame, (fieldName_congr hp hsame).symm.trans h⟩
  · rintro ⟨hsame, hfirst⟩
    exact (fieldName_congr hp hsame).trans hfirst

/-- Among placeholders that differ by more than case, each names its own field. -/
theorem fieldName_eq_self {placeholder : String}
    (hd : ∀ q ∈ s.placeholders, sameFolded q placeholder = true → q = placeholder) :
    s.fieldName placeholder = placeholder := by
  rw [fieldName]
  cases h : s.placeholders.find? (sameFolded · placeholder) with
  | none => rfl
  | some found =>
      exact hd found (List.mem_of_find?_eq_some h)
        (List.find?_some (p := fun q => sameFolded q placeholder) h)

/-- The first field of a placeholder's name is that of the first argument that
    equals the placeholder; no field has the name of a placeholder that an
    equal one of another spelling precedes. -/
theorem findIdx?_fields_name (system : TypeSystem) {placeholder : String}
    (hp : placeholder ∈ s.placeholders) :
    (s.layout system).parameterFields.findIdx? (·.name == placeholder) =
      if s.fieldName placeholder = placeholder then
        s.regular.findIdx? (sameFolded ·.name placeholder)
      else none := by
  rw [show (s.layout system).parameterFields = s.regular.map (s.field system) from rfl,
    List.findIdx?_map]
  have hname : ∀ a : Argument, ((fun field : ParameterField => field.name == placeholder) ∘
      s.field system) a = decide (s.fieldName a.name = placeholder) := fun a => rfl
  split
  next hfirst =>
    refine congrArg (s.regular.findIdx? ·) ?_
    funext a
    rw [hname, Bool.eq_iff_iff, decide_eq_true_iff, fieldName_eq_iff hp]
    exact and_iff_left hfirst
  next hother =>
    rw [List.findIdx?_eq_none_iff]
    intro a _
    rw [hname, decide_eq_false_iff_not, fieldName_eq_iff hp]
    exact fun h => hother h.2

/-! ## Arguments that differ by more than case -/

/-- No two arguments of the message are equal up to ASCII case. -/
def HasDistinctNames (s : Statement) : Prop :=
  (s.regular.map fun a => folded a.name).Nodup

/-- Arguments that line up differ by more than case when the placeholders do. -/
theorem hasDistinctNames_iff_of_linesUp (h : s.linesUp = true) :
    s.HasDistinctNames ↔ (s.placeholders.map folded).Nodup := by
  have hfolded : (s.regular.map Argument.name).map folded = s.placeholders.map folded := by
    rw [← List.forall₂_eq_eq_eq, List.forall₂_map_left_iff, List.forall₂_map_right_iff]
    exact (linesUp_iff_forall₂.mp h).imp fun _ _ => sameFolded_iff.mp
  rw [List.map_map] at hfolded
  rw [← hfolded]
  rfl

/-- Arguments with equal names up to ASCII case are then one argument. -/
theorem HasDistinctNames.index_eq (hs : s.HasDistinctNames) {i j : Nat} {a b : Argument}
    (ha : s.regular[i]? = some a) (hb : s.regular[j]? = some b)
    (h : sameFolded a.name b.name = true) : i = j := by
  have hi : i < (s.regular.map fun a => folded a.name).length := by
    rw [List.length_map]
    exact (List.getElem?_eq_some_iff.mp ha).1
  refine (List.getElem?_inj hi hs).mp ?_
  rw [List.getElem?_map, List.getElem?_map, ha, hb]
  exact congrArg some (sameFolded_iff.mp h)

theorem findIdx?_eq_some_of_unique {α : Type} {f : α → Bool} {as : List α} {i : Nat} {a : α}
    (ha : as[i]? = some a) (hf : f a = true)
    (hunique : ∀ j b, as[j]? = some b → f b = true → j = i) :
    as.findIdx? f = some i := by
  obtain ⟨hi, hget⟩ := List.getElem?_eq_some_iff.mp ha
  rw [List.findIdx?_eq_some_iff_getElem]
  refine ⟨hi, by rwa [hget], ?_⟩
  intro j hji hj
  have := hunique j as[j] (List.getElem?_eq_getElem _) hj
  omega

/-- When arguments of distinct names line up, the field of a placeholder's name
    is that of the argument at the placeholder's position. -/
theorem findIdx?_fields_name_of_linesUp (system : TypeSystem) (hs : s.HasDistinctNames)
    (hlines : s.linesUp = true) {i : Nat} {placeholder : String}
    (hp : s.placeholders[i]? = some placeholder) :
    (s.layout system).parameterFields.findIdx? (·.name == placeholder) = some i := by
  obtain ⟨hcount, hsame⟩ := linesUp_iff.mp hlines
  have hargument : ∀ (j : Nat) (q : String), s.placeholders[j]? = some q →
      ∃ a, s.regular[j]? = some a ∧ sameFolded a.name q = true := by
    intro j q hq
    have hj : j < s.regular.length := hcount ▸ (List.getElem?_eq_some_iff.mp hq).1
    exact ⟨_, List.getElem?_eq_getElem hj, hsame j _ q (List.getElem?_eq_getElem hj) hq⟩
  obtain ⟨a, ha, hap⟩ := hargument i placeholder hp
  have hmem : placeholder ∈ s.placeholders := List.mem_of_getElem? hp
  have hfirst : s.fieldName placeholder = placeholder := by
    refine fieldName_eq_self ?_
    intro q hq hqp
    obtain ⟨j, hj⟩ := List.mem_iff_getElem?.mp hq
    obtain ⟨b, hb, hbq⟩ := hargument j q hj
    -- the arguments at the two positions are equal up to case, so they are one
    have hba : sameFolded b.name a.name = true := by
      rw [sameFolded_congr hap, ← sameFolded_congr hqp]
      exact hbq
    rw [hs.index_eq hb ha hba, hp] at hj
    exact (Option.some.inj hj).symm
  rw [findIdx?_fields_name system hmem, if_pos hfirst]
  refine findIdx?_eq_some_of_unique ha hap fun j b hb hbp => hs.index_eq hb ha ?_
  rw [sameFolded_congr hap]
  exact hbp

end StructuredLog.Statement
