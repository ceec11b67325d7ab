import StructuredLog.HostType.Facts

/-! # Canonical names — what the facts of a table agree on

    A table is made from the empty one by recording facts and naming types.
    Since naming a type records its fact, and no fact is ever taken back, a
    canonical name is always assignable to its known type
    (`Reachable.isAssignable_of_canonical?`). -/

namespace StructuredLog.TypeFacts

variable {table : TypeFacts} {type : TypeName} {known : KnownType}

/-- The tables that can be made. -/
inductive Reachable : TypeFacts → Prop where
  | empty : Reachable .empty
  | register {table : TypeFacts} (type : TypeName) (known : KnownType) :
      Reachable table → Reachable (table.register type known)
  | define {table : TypeFacts} (known : KnownType) (type : TypeName) :
      Reachable table → Reachable (table.define known type)

theorem reachable_conventional : conventional.Reachable :=
  .register _ _ <| .register _ _ <| .define _ _ <| .define _ _ <| .define _ _ <| .define _ _ <|
    .define _ _ <| .define _ _ <| .define _ _ .empty

/-- **A canonical name stands for its known type.** -/
theorem Reachable.isAssignable_of_canonical? (h : table.Reachable)
    (hname : table.canonical? known = some type) : table.isAssignable type known = true := by
  induction h with
  | empty => exact nomatch hname
  | register other target _ ih =>
      rw [isAssignable_register, ih hname, Bool.or_true]
  | @define table target other _ ih =>
      rw [isAssignable_define]
      by_cases hknown : known = target
      · subst hknown
        have hother : other = type := by
          rw [canonical?, TypeFacts.define, TypeFacts.register, List.lookup_cons_self] at hname
          exact Option.some.inj hname
        rw [hother, beq_self_eq_true, Bool.true_or]
      · have hkept : table.canonical? known = some type := by
          rw [canonical?, TypeFacts.define, TypeFacts.register, List.lookup_cons,
            beq_false_of_ne hknown] at hname
          exact hname
        rw [ih hkept, Bool.or_true]

end StructuredLog.TypeFacts
