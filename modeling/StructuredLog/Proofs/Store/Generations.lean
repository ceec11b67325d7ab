import StructuredLog.Proofs.Store.Transcript

/-! # Generations — what a generation of a store says about it

    Every operation on a store leaves it as it is or raises its generation by one
    (`Store.perform_cases`).  So the generation never falls, and it stays the same
    only while nothing happens: two moments of a run that have the same generation
    have the same content (`Store.eq_of_generation_eq`).

    An append is accepted exactly if it is made at the current generation and its
    container exists (`Store.append_isOk_iff`), and then the declaration is the
    last of that container and of no other (`Store.entry?_append`). -/

namespace StructuredLog

/-- What can be done to a store. -/
inductive StoreOperation where
  | insert (name : String) (declarations : List Declaration)
  | create (name : String)
  | append (name : String) (expected : Nat) (declaration : Declaration)

namespace Store

variable {s : Store} {name : String} {expected : Nat} {d : Declaration}

/-- The store after an operation. -/
def perform (s : Store) : StoreOperation → Store
  | .insert name declarations => s.insert name declarations
  | .create name => s.create name
  | .append name expected d => (s.append name expected d).2

/-- The store after operations. -/
def after (s : Store) (operations : List StoreOperation) : Store :=
  operations.foldl perform s

/-- Whether the operation changes the store: a container is created only once, and an
    append may be refused. -/
def isChangedBy (s : Store) : StoreOperation → Bool
  | .insert _ _ => true
  | .create name => (s.entry? name).isNone
  | .append name expected d => (s.append name expected d).1.isOk

theorem after_append (s : Store) (operations later : List StoreOperation) :
    s.after (operations ++ later) = (s.after operations).after later :=
  List.foldl_append

/-! ## Runs -/

theorem Reachable.perform (h : s.Reachable) (operation : StoreOperation) :
    (s.perform operation).Reachable := by
  cases operation with
  | insert name declarations => exact h.insert name declarations
  | create name => exact h.create name
  | append name expected d => exact h.append name expected d

theorem Reachable.after (h : s.Reachable) (operations : List StoreOperation) :
    (s.after operations).Reachable := by
  induction operations generalizing s with
  | nil => exact h
  | cons operation later ih => exact ih (h.perform operation)

/-- Each container of a consistent store bears its name and lists the signatures of its
    declarations. -/
theorem Consistent.entry_eq (h : s.Consistent) {entry : StoreEntry}
    (hentry : s.entry? name = some entry) :
    entry.container.name = name ∧
      entry.container.methods = entry.declarations.map Declaration.signature := by
  obtain ⟨ds, rfl⟩ := h name entry hentry
  exact ⟨rfl, rfl⟩

/-! ## Appending -/

/-- An append is accepted exactly on the current generation of a container that is there. -/
theorem append_isOk_iff : (s.append name expected d).1.isOk = true ↔
    s.generation = expected ∧ ∃ entry, s.entry? name = some entry := by
  by_cases hgeneration : s.generation = expected
  · cases hentry : s.entry? name with
    | none =>
        rw [append, if_neg (not_not_intro hgeneration), hentry]
        refine iff_of_false Bool.false_ne_true ?_
        rintro ⟨-, entry, ⟨⟩⟩
    | some entry =>
        rw [append_of_eq hgeneration hentry]
        exact iff_of_true rfl ⟨hgeneration, entry, rfl⟩
  · rw [append_of_ne hgeneration]
    exact iff_of_false Bool.false_ne_true fun h => hgeneration h.1

/-- **An accepted append adds the declaration to its container only**, at the end. -/
theorem entry?_append {entry : StoreEntry} (hgeneration : s.generation = expected)
    (hentry : s.entry? name = some entry) (d : Declaration) :
    (s.append name expected d).1 = .ok (s.generation + 1) ∧
      Store.entry? (s.append name expected d).2 name = some (entry.push d) ∧
      ∀ other, other ≠ name →
        Store.entry? (s.append name expected d).2 other = s.entry? other := by
  rw [append_of_eq hgeneration hentry]
  refine ⟨rfl, s.entry?_change_self name _, ?_⟩
  intro other hother
  rw [entry?_change, if_neg hother]

/-! ## Generations -/

/-- **An operation does nothing, or it raises the generation by one.** -/
theorem perform_cases (s : Store) (operation : StoreOperation) :
    (s.isChangedBy operation = false ∧ s.perform operation = s) ∨
      (s.isChangedBy operation = true ∧
        (s.perform operation).generation = s.generation + 1) := by
  cases operation with
  | insert name declarations => exact .inr ⟨rfl, rfl⟩
  | create name =>
      rw [isChangedBy, perform]
      cases hentry : s.entry? name with
      | some entry => exact .inl ⟨rfl, create_of_present hentry⟩
      | none =>
          rw [create_of_absent hentry]
          exact .inr ⟨rfl, rfl⟩
  | append name expected d =>
      rw [isChangedBy, perform]
      cases haccepted : (s.append name expected d).1.isOk with
      | false => exact .inl ⟨rfl, append_of_refused haccepted⟩
      | true =>
          obtain ⟨hgeneration, entry, hentry⟩ := append_isOk_iff.mp haccepted
          rw [append_of_eq hgeneration hentry]
          exact .inr ⟨rfl, rfl⟩

theorem precedes_perform (s : Store) (operation : StoreOperation) :
    s.Precedes (s.perform operation) := by
  rcases s.perform_cases operation with ⟨-, hsame⟩ | ⟨-, hnext⟩
  · exact .inl hsame
  · exact .inr (hnext ▸ Nat.lt_succ_self s.generation)

theorem Precedes.trans {s' s'' : Store} (h : s.Precedes s') (h' : s'.Precedes s'') :
    s.Precedes s'' := by
  rcases h with rfl | hlt
  · exact h'
  · exact .inr (Nat.lt_of_lt_of_le hlt h'.generation_le)

theorem precedes_after (s : Store) (operations : List StoreOperation) :
    s.Precedes (s.after operations) := by
  induction operations generalizing s with
  | nil => exact .refl s
  | cons operation later ih => exact (s.precedes_perform operation).trans (ih _)

/-- A store that has kept its generation is the store that it was. -/
theorem after_eq_self {operations : List StoreOperation}
    (h : (s.after operations).generation = s.generation) : s.after operations = s := by
  rcases s.precedes_after operations with hsame | hlt
  · exact hsame
  · exact absurd h (Nat.ne_of_gt hlt)

theorem eq_of_generation_eq_of_le {operations : List StoreOperation} {i j : Nat} (hle : i ≤ j)
    (h : (s.after (operations.take i)).generation = (s.after (operations.take j)).generation) :
    s.after (operations.take i) = s.after (operations.take j) := by
  have hsplit : operations.take j = operations.take i ++ (operations.drop i).take (j - i) := by
    rw [← List.take_add, Nat.add_sub_of_le hle]
  rw [hsplit, after_append] at h ⊢
  exact (after_eq_self h.symm).symm

/-- **A generation identifies its content**: two moments of a run that have the same
    generation have the same store. -/
theorem eq_of_generation_eq {operations : List StoreOperation} {i j : Nat}
    (h : (s.after (operations.take i)).generation = (s.after (operations.take j)).generation) :
    s.after (operations.take i) = s.after (operations.take j) := by
  rcases Nat.le_total i j with hle | hle
  · exact eq_of_generation_eq_of_le hle h
  · exact (eq_of_generation_eq_of_le hle h.symm).symm

end Store

end StructuredLog
