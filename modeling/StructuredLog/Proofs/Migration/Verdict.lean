import StructuredLog.Proofs.Migration.Wish
import StructuredLog.Proofs.Store.Consistency
import StructuredLog.Proofs.Store.Interleaving

/-! # Verdicts — what a migration decides on the declarations it sees

    All that an attempt reads of the store is the list of declarations in its
    container.  From it follow the result of the migration and the method that
    is appended, if any: this is the verdict.  A method that is listed is
    always found again, so a verdict reuses, mints, or finds the event ids used
    up (`verdict_cases`).

    An attempt that finds its container acts on the verdict: it is done, or
    asks for the append (`settled_settleIn`).  With the store to itself, it
    then comes to the verdict (`run_attempt`). -/

namespace StructuredLog

/-! ## Settling on a method -/

namespace Container

variable {c : Container} {wanted : WantedMethod} {name : String} {method : Signature}

theorem of_ofShape?_eq_some {shape : Shape} (h : c.ofShape? name shape = some method) :
    method ∈ c.methods ∧ method.name = name ∧ method.shape = shape := by
  have hnamed : method ∈ c.named name := List.mem_of_find?_eq_some h
  have hshape := List.find?_some (p := fun m : Signature => m.shape == shape) h
  obtain ⟨hmem, hname⟩ := List.mem_filter.mp hnamed
  exact ⟨hmem, beq_iff_eq.mp hname, beq_iff_eq.mp hshape⟩

/-- A method to reuse is one of the container, under the name settled on and of
    the wanted shape. -/
theorem of_settleFrom_eq_some {tries n : Nat}
    (h : c.settleFrom wanted tries n = (name, some method)) :
    method ∈ c.methods ∧ method.name = name ∧ method.shape = wanted.shape := by
  induction tries generalizing n with
  | zero => exact nomatch (Prod.mk.inj h).2
  | succ tries ih =>
      rw [settleFrom] at h
      cases hfound : c.ofShape? (wanted.nthName n) wanted.shape with
      | some found =>
          simp only [hfound] at h
          obtain ⟨rfl, hmethod⟩ := Prod.mk.inj h
          obtain rfl := Option.some.inj hmethod
          exact of_ofShape?_eq_some hfound
      | none =>
          simp only [hfound] at h
          by_cases hempty : (c.named (wanted.nthName n)).isEmpty = true
          · rw [if_pos hempty] at h
            exact nomatch (Prod.mk.inj h).2
          · rw [if_neg hempty] at h
            exact ih h

/-- The method of a reusing resolution is in the container. -/
theorem mem_methods_of_methodFor? {firstEventId : Int32} {resolution : Resolution}
    (h : c.methodFor? wanted firstEventId = some resolution)
    (hreused : resolution.isReused = true) :
    ⟨resolution.name, wanted.shape, resolution.eventId⟩ ∈ c.methods := by
  rw [methodFor?] at h
  cases hsettle : c.settle wanted with
  | mk name found =>
      rw [hsettle] at h
      cases found with
      | some method =>
          obtain rfl := Option.some.inj h
          obtain ⟨hmem, hname, hshape⟩ := of_settleFrom_eq_some hsettle
          -- the resolution repeats the method that it found
          rw [show (⟨name, wanted.shape, method.eventId⟩ : Signature) = method by
            rw [← hname, ← hshape]]
          exact hmem
      | none =>
          simp only at h
          obtain ⟨eventId, -, rfl⟩ := Option.map_eq_some_iff.mp h
          exact nomatch hreused

end Container

/-! ## Verdicts -/

/-- What comes of seeing the declarations of a container. -/
structure Verdict where
  result : MigrationResult
  /-- The method to append. -/
  minted? : Option Declaration
  deriving DecidableEq, Repr

/-- What a session does on a verdict that rests on a generation of the store. -/
def Verdict.act (v : Verdict) (container : String) (generation : Nat)
    (again : Session MigrationResult) : Session MigrationResult :=
  match v with
  | ⟨.ok fix, some minted⟩ =>
    .append container generation minted (AdHocCall.onAppended again fix)
  | ⟨result, _⟩ => .done result

namespace AdHocCall

/-- The verdict on the declarations of the container. -/
def verdict (options : MigrationOptions) (call : AdHocCall) (wish : MethodWish)
    (ds : List Declaration) : Verdict :=
  match (Container.ofDeclarations options.containerName ds).methodFor? wish.wanted
      options.firstEventId with
  | none => ⟨.error (.eventIdsExhausted options.containerName), none⟩
  | some resolution =>
    if resolution.isReused then
      match ds.find? (·.signature == ⟨resolution.name, wish.wanted.shape, resolution.eventId⟩) with
      | none => ⟨.error (lostDeclaration options.containerName resolution.name), none⟩
      | some stored => ⟨.ok (call.fix options wish.roles call.span stored true), none⟩
    else
      let minted := wish.declare resolution.name resolution.eventId
      ⟨.ok (call.fix options wish.roles call.span minted false), some minted⟩

/-- **A verdict reuses, mints, or finds no event id.** -/
theorem verdict_cases (options : MigrationOptions) (call : AdHocCall) (wish : MethodWish)
    (ds : List Declaration) :
    (∃ stored ∈ ds, call.verdict options wish ds
        = ⟨.ok (call.fix options wish.roles call.span stored true), none⟩) ∨
      (∃ name eventId, call.verdict options wish ds
        = ⟨.ok (call.fix options wish.roles call.span (wish.declare name eventId) false),
            some (wish.declare name eventId)⟩) ∨
      call.verdict options wish ds = ⟨.error (.eventIdsExhausted options.containerName), none⟩ := by
  rw [verdict]
  cases hresolution : (Container.ofDeclarations options.containerName ds).methodFor? wish.wanted
      options.firstEventId with
  | none => exact .inr (.inr rfl)
  | some resolution =>
      simp only
      by_cases hreused : resolution.isReused = true
      · rw [if_pos hreused]
        -- the signature was listed, and what is listed comes from a declaration
        obtain ⟨d, hd, hsignature⟩ :=
          List.mem_map.mp (Container.mem_methods_of_methodFor? hresolution hreused)
        cases hstored : ds.find?
            (·.signature == ⟨resolution.name, wish.wanted.shape, resolution.eventId⟩) with
        | some stored => exact .inl ⟨stored, List.mem_of_find?_eq_some hstored, rfl⟩
        | none => exact absurd (beq_iff_eq.mpr hsignature) (List.find?_eq_none.mp hstored d hd)
      · rw [if_neg hreused]
        exact .inr (.inl ⟨_, _, rfl⟩)

/-- **An attempt acts on its verdict.** -/
theorem settled_settleIn (options : MigrationOptions) (call : AdHocCall) (wish : MethodWish)
    (again : Session MigrationResult) (ds : List Declaration) (generation : Nat) :
    (call.settleIn options wish again
        ⟨.ofDeclarations options.containerName ds, generation⟩).settled
      = (call.verdict options wish ds).act options.containerName generation again := by
  rw [settleIn, verdict]
  simp only [StoreEntry.ofDeclarations]
  cases hresolution : (Container.ofDeclarations options.containerName ds).methodFor? wish.wanted
      options.firstEventId with
  | none => rfl
  | some resolution =>
      simp only [Session.settled]
      by_cases hreused : resolution.isReused = true
      · rw [if_pos hreused, if_pos hreused]
        simp only [Snapshot.declaration?]
        cases ds.find?
            (·.signature == ⟨resolution.name, wish.wanted.shape, resolution.eventId⟩) with
        | none => rfl
        | some stored => rfl
      · rw [if_neg hreused, if_neg hreused]
        rfl

/-! ## One attempt with the store to itself -/

theorem update_append_nothing (declarations : String → List Declaration) (name : String) :
    Function.update declarations name (declarations name ++ (none : Option Declaration).toList)
      = declarations := by
  rw [Option.toList_none, List.append_nil, Function.update_eq_self]

/-- An attempt that misses its container creates it and leaves the rest to the
    other attempts. -/
theorem run_attempt_of_absent (options : MigrationOptions) (call : AdHocCall) (wish : MethodWish)
    {s : Store} (hentry : s.entry? options.containerName = none) {last : Nat}
    (hlast : last ≤ s.generation) (attempts : Nat) :
    (call.attempt options wish (attempts + 1) last).run Store.host s
      = (call.attempt options wish attempts s.generation).run Store.host
          (s.create options.containerName) := by
  show (if s.generation < last then _ else _ : Session MigrationResult).run Store.host s = _
  rw [if_neg (Nat.not_lt.mpr hlast)]
  show (call.onSnapshot options wish _ (.ok (s.snapshot? options.containerName))).run
    Store.host s = _
  rw [Store.snapshot?, hentry]
  rfl

/-- An attempt that finds its container comes to the verdict on it. -/
theorem run_attempt (options : MigrationOptions) (call : AdHocCall) (wish : MethodWish)
    {s : Store} (hs : s.Consistent) {entry : StoreEntry}
    (hentry : s.entry? options.containerName = some entry) {last : Nat}
    (hlast : last ≤ s.generation) (attempts : Nat) :
    ∃ after : Store, after.Consistent ∧
      after.declarations = Function.update s.declarations options.containerName
        (s.declarations options.containerName ++
          (call.verdict options wish (s.declarations options.containerName)).minted?.toList) ∧
      (call.attempt options wish (attempts + 1) last).run Store.host s
        = ((call.verdict options wish (s.declarations options.containerName)).result, after) := by
  have hrun : (call.attempt options wish (attempts + 1) last).run Store.host s
      = ((call.verdict options wish (s.declarations options.containerName)).act
          options.containerName s.generation
          (call.attempt options wish attempts s.generation)).run Store.host s := by
    rw [← settled_settleIn, Session.run_settled]
    show (if s.generation < last then _ else _ : Session MigrationResult).run Store.host s = _
    rw [if_neg (Nat.not_lt.mpr hlast)]
    show (call.onSnapshot options wish _ (.ok (s.snapshot? options.containerName))).run
      Store.host s = _
    rw [hs.snapshot?_eq hentry]
    rfl
  rw [hrun]
  rcases verdict_cases options call wish (s.declarations options.containerName) with
    ⟨stored, -, hverdict⟩ | ⟨name, eventId, hverdict⟩ | hverdict
  · rw [hverdict]
    refine ⟨s, hs, ?_, rfl⟩
    exact (update_append_nothing _ _).symm
  · rw [hverdict]
    -- nobody else changes the store between the snapshot and the append
    have happend := hs.append_of_eq rfl hentry (wish.declare name eventId)
    refine ⟨_, hs.change _ _, Store.declarations_change _ _ _, ?_⟩
    show (onAppended _ _ (s.append _ _ _).1).run Store.host (s.append _ _ _).2 = _
    rw [happend]
    rfl
  · rw [hverdict]
    refine ⟨s, hs, ?_, rfl⟩
    exact (update_append_nothing _ _).symm

end AdHocCall

end StructuredLog
