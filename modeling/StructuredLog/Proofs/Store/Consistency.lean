import Mathlib.Logic.Function.Basic
import StructuredLog.Store.Basic

/-! # Consistency — what the requests to a store keep

    However a store is filled, each of its containers lists the signatures of
    exactly the declarations that it holds, under the name that it is stored
    under (`Reachable.consistent`).  A snapshot of such a store is therefore
    given by the declarations and the generation alone
    (`Consistent.snapshot?_eq`).

    A change raises the generation, so a store at a known generation is the
    very store that was seen there (`Precedes`); this is all that an append
    relies on. -/

namespace StructuredLog

/-- Appending a declaration to an entry adds it to both of its lists. -/
theorem StoreEntry.push_ofDeclarations (name : String) (ds : List Declaration) (d : Declaration) :
    (ofDeclarations name ds).push d = ofDeclarations name (ds ++ [d]) := by
  show StoreEntry.mk _ _ = StoreEntry.mk _ _
  exact congrArg (StoreEntry.mk · (ds ++ [d])) (Container.push_ofDeclarations name ds d)

namespace Store

variable {s s' : Store} {name : String}

/-! ## Effects of a change -/

/-- A change sets one entry and leaves the others. -/
theorem entry?_change (s : Store) (name other : String) (entry : StoreEntry) :
    Store.entry? (s.change name entry) other
      = if other = name then some entry else s.entry? other :=
  lookup_setEntry name other entry s.entries

theorem entry?_change_self (s : Store) (name : String) (entry : StoreEntry) :
    Store.entry? (s.change name entry) name = some entry := by
  rw [entry?_change, if_pos rfl]

theorem declarations_of_present {entry : StoreEntry} (h : s.entry? name = some entry) :
    s.declarations name = entry.declarations := by
  rw [declarations, h]
  rfl

theorem declarations_of_absent (h : s.entry? name = none) : s.declarations name = [] := by
  rw [declarations, h]
  rfl

/-- A change sets the declarations of one container and leaves the others. -/
theorem declarations_change (s : Store) (name : String) (entry : StoreEntry) :
    (s.change name entry).declarations
      = Function.update s.declarations name entry.declarations := by
  funext other
  rw [declarations, entry?_change, Function.update_apply]
  by_cases h : other = name
  · rw [if_pos h, if_pos h]
    rfl
  · rw [if_neg h, if_neg h]
    rfl

/-! ## Creating and appending -/

theorem create_of_present {entry : StoreEntry} (h : s.entry? name = some entry) :
    s.create name = s := by
  rw [create, h]

theorem create_of_absent (h : s.entry? name = none) :
    s.create name = s.change name (.ofDeclarations name []) := by
  rw [create, h]

theorem entry?_create (s : Store) (name : String) :
    ∃ entry, Store.entry? (s.create name) name = some entry := by
  cases h : s.entry? name with
  | some entry => exact ⟨entry, by rw [create_of_present h, h]⟩
  | none => exact ⟨_, by rw [create_of_absent h, entry?_change_self]⟩

theorem declarations_create (s : Store) (name : String) :
    (s.create name).declarations = s.declarations := by
  cases h : s.entry? name with
  | some entry => rw [create_of_present h]
  | none =>
      rw [create_of_absent h, declarations_change, Function.update_eq_self_iff,
        declarations_of_absent h]
      rfl

theorem append_of_ne {expected : Nat} (h : s.generation ≠ expected) (name : String)
    (d : Declaration) :
    s.append name expected d = (.error (.conflict expected s.generation), s) := by
  rw [append, if_pos h]

theorem append_of_eq {expected : Nat} {entry : StoreEntry} (h : s.generation = expected)
    (hentry : s.entry? name = some entry) (d : Declaration) :
    s.append name expected d = (.ok (s.generation + 1), s.change name (entry.push d)) := by
  rw [append, if_neg (not_not_intro h), hentry]

/-! ## Consistency -/

/-- Each container lists the declarations it holds, under the name it is stored
    under. -/
def Consistent (s : Store) : Prop :=
  ∀ name entry, s.entry? name = some entry → ∃ ds, entry = .ofDeclarations name ds

/-- The stores that requests lead to from the empty one. -/
inductive Reachable : Store → Prop where
  | empty : Reachable .empty
  | insert {s : Store} (name : String) (declarations : List Declaration) :
      Reachable s → Reachable (s.insert name declarations)
  | create {s : Store} (name : String) : Reachable s → Reachable (s.create name)
  | append {s : Store} (name : String) (expected : Nat) (d : Declaration) :
      Reachable s → Reachable (s.append name expected d).2

theorem Consistent.change (h : s.Consistent) (name : String) (ds : List Declaration) :
    (s.change name (.ofDeclarations name ds)).Consistent := by
  intro other entry hentry
  rw [entry?_change] at hentry
  by_cases hother : other = name
  · rw [if_pos hother] at hentry
    exact ⟨ds, by rw [← Option.some.inj hentry, hother]⟩
  · rw [if_neg hother] at hentry
    exact h other entry hentry

theorem Consistent.create (h : s.Consistent) (name : String) : (s.create name).Consistent := by
  cases hentry : s.entry? name with
  | some entry => rwa [create_of_present hentry]
  | none =>
      rw [create_of_absent hentry]
      exact h.change name []

/-- The entry of a consistent store is given by its declarations. -/
theorem Consistent.entry?_eq (h : s.Consistent) {entry : StoreEntry}
    (hentry : s.entry? name = some entry) :
    s.entry? name = some (.ofDeclarations name (s.declarations name)) := by
  obtain ⟨ds, rfl⟩ := h name entry hentry
  rw [declarations_of_present hentry, hentry]
  rfl

/-- An accepted append to a consistent store adds the declaration to the others. -/
theorem Consistent.append_of_eq (h : s.Consistent) {expected : Nat} {entry : StoreEntry}
    (hgeneration : s.generation = expected) (hentry : s.entry? name = some entry)
    (d : Declaration) :
    s.append name expected d
      = (.ok (s.generation + 1),
          s.change name (.ofDeclarations name (s.declarations name ++ [d]))) := by
  rw [Store.append_of_eq hgeneration (h.entry?_eq hentry), StoreEntry.push_ofDeclarations]

/-- An append keeps each container in step with its declarations, refused or not. -/
theorem Consistent.append (h : s.Consistent) (name : String) (expected : Nat) (d : Declaration) :
    (s.append name expected d).2.Consistent := by
  by_cases hgeneration : s.generation = expected
  · cases hentry : s.entry? name with
    | none =>
        rw [Store.append, if_neg (not_not_intro hgeneration), hentry]
        exact h
    | some entry =>
        rw [h.append_of_eq hgeneration hentry]
        exact h.change name _
  · rw [append_of_ne hgeneration]
    exact h

/-- **Every store is consistent.** -/
theorem Reachable.consistent (h : s.Reachable) : s.Consistent := by
  induction h with
  | empty => exact fun _ _ hentry => nomatch hentry
  | insert name declarations _ ih => exact ih.change name declarations
  | create name _ ih => exact ih.create name
  | append name expected d _ ih => exact ih.append name expected d

/-- A snapshot of a consistent store is given by the declarations and the
    generation. -/
theorem Consistent.snapshot?_eq (h : s.Consistent) {entry : StoreEntry}
    (hentry : s.entry? name = some entry) :
    s.snapshot? name
      = some ⟨.ofDeclarations name (s.declarations name), s.generation⟩ := by
  rw [snapshot?, h.entry?_eq hentry]
  rfl

/-! ## Time -/

/-- The one store is the other, or was changed into it. -/
def Precedes (s s' : Store) : Prop :=
  s' = s ∨ s.generation < s'.generation

theorem Precedes.refl (s : Store) : s.Precedes s :=
  .inl rfl

theorem Precedes.generation_le (h : s.Precedes s') : s.generation ≤ s'.generation := by
  rcases h with rfl | h
  · exact Nat.le_refl _
  · exact Nat.le_of_lt h

theorem precedes_change (s : Store) (name : String) (entry : StoreEntry) :
    s.Precedes (s.change name entry) :=
  .inr (Nat.lt_succ_self s.generation)

theorem precedes_create (s : Store) (name : String) : s.Precedes (s.create name) := by
  cases h : s.entry? name with
  | some entry => exact .inl (create_of_present h)
  | none =>
      rw [create_of_absent h]
      exact precedes_change s name _

end Store

end StructuredLog
