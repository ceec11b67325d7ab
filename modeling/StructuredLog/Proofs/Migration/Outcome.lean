import StructuredLog.Proofs.Migration.Settling
import StructuredLog.Proofs.Store.Transcript

/-! # Outcomes — what a migration comes to, whoever answers

    A migration ends in a failure, or in a fix that invokes a method of the
    shape that the call asked for (`AdHocCall.Fits`): the minted one is what was
    asked for, under a name from the series that the container is searched for,
    and a stored one is found by its whole signature.  In between it makes the
    requests of its attempts.  So a property of sessions that comes back through
    these requests from such results holds of every migration
    (`AdHocCall.attempt_of_comesBack`), and the result itself is as told with
    every host (`AdHocCall.exists_wish_of_migrate`). -/

namespace StructuredLog.AdHocCall

variable {model : HostModel} {options : MigrationOptions} {call : AdHocCall} {wish : MethodWish}

/-- The method that a call invokes has the shape that was asked for, and if it is new,
    it is declared as asked for. -/
structure IsGranted (wish : MethodWish) (d : Declaration) (isReused : Bool) : Prop where
  shape_eq : d.shape = wish.wanted.shape
  minted : isReused = false → ∃ n eventId, d = wish.declare (wish.wanted.nthName n) eventId

theorem isGranted_minted (wish : MethodWish) (n : Nat) (eventId : Int32) :
    IsGranted wish (wish.declare (wish.wanted.nthName n) eventId) false :=
  ⟨rfl, fun _ => ⟨n, eventId, rfl⟩⟩

/-- A stored method of the wanted signature is granted. -/
theorem isGranted_stored {d : Declaration} (h : d.shape = wish.wanted.shape) :
    IsGranted wish d true :=
  ⟨h, fun hminted => absurd hminted.symm Bool.false_ne_true⟩

/-- The result is a failure, or the fix invokes a method that is granted. -/
def Fits (options : MigrationOptions) (call : AdHocCall) (wish : MethodWish)
    (result : MigrationResult) : Prop :=
  ∀ fix, result = .ok fix → ∃ span d isReused,
    fix = call.fix options wish.roles span d isReused ∧ IsGranted wish d isReused

theorem fits_error (e : MigrationFailure) : call.Fits options wish (.error e) := by
  intro fix hfix
  cases hfix

theorem fits_fix {d : Declaration} {isReused : Bool} (h : IsGranted wish d isReused)
    (span : Span) : call.Fits options wish (.ok (call.fix options wish.roles span d isReused)) := by
  intro fix hfix
  exact ⟨span, d, isReused, (Except.ok.inj hfix).symm, h⟩

/-- A container grants a name of the series that it is searched for. -/
theorem exists_nthName_of_methodFor? {container : Container} {wanted : WantedMethod}
    {firstEventId : Int32} {resolution : Resolution}
    (h : container.methodFor? wanted firstEventId = some resolution) :
    ∃ n, resolution.name = wanted.nthName n := by
  obtain ⟨n, found, hstops⟩ := container.exists_stopsAt wanted
  refine ⟨n, ?_⟩
  cases found with
  | some method =>
      rw [hstops.methodFor?_of_some] at h
      rw [← Option.some.inj h]
  | none =>
      rw [hstops.methodFor?_of_none] at h
      obtain ⟨eventId, -, rfl⟩ := Option.map_eq_some_iff.mp h
      rfl

variable {Q : Session MigrationResult → Prop}

/-- A property that comes back through requests holds of settling, if it holds of the attempt
    that is made when the store refuses. -/
theorem settleIn_of_comesBack (hQ : Session.ComesBack (call.Fits options wish) Q)
    {again : Session MigrationResult} (hagain : Q again) (snapshot : Snapshot) :
    Q (call.settleIn options wish again snapshot) := by
  rw [settleIn]
  cases hresolution : snapshot.container.methodFor? wish.wanted options.firstEventId with
  | none => exact hQ.done (fits_error _)
  | some resolution =>
      refine hQ.relocate ?_
      intro span?
      cases span? with
      | none => exact hQ.done (fits_error _)
      | some span =>
          by_cases hreused : resolution.isReused = true
          · simp only [if_pos hreused]
            cases hstored : snapshot.declaration?
                ⟨resolution.name, wish.wanted.shape, resolution.eventId⟩ with
            | none => exact hQ.done (fits_error _)
            | some stored =>
                have hsignature := beq_iff_eq.mp (List.find?_some (p := fun e : Declaration =>
                  e.signature == ⟨resolution.name, wish.wanted.shape, resolution.eventId⟩) hstored)
                exact hQ.done
                  (fits_fix (isGranted_stored (congrArg Signature.shape hsignature)) span)
          · simp only [if_neg hreused]
            obtain ⟨n, hname⟩ := exists_nthName_of_methodFor? hresolution
            rw [hname]
            refine hQ.append ?_
            intro answer
            cases answer with
            | ok generation => exact hQ.done (fits_fix (isGranted_minted wish n _) span)
            | error refusal =>
                cases refusal with
                | conflict expected actual => exact hagain
                | unavailable reason => exact hQ.done (fits_error _)

/-- **What comes back from fitting results holds of every migration.** -/
theorem attempt_of_comesBack (hQ : Session.ComesBack (call.Fits options wish) Q) (attempts last : Nat) :
    Q (call.attempt options wish attempts last) := by
  induction attempts generalizing last with
  | zero => exact hQ.done (fits_error _)
  | succ attempts ih =>
      refine hQ.generation ?_
      intro now
      by_cases hnow : now < last
      · rw [if_pos hnow]
        exact hQ.done (fits_error _)
      · rw [if_neg hnow]
        refine hQ.snapshot ?_
        intro answer
        match answer with
        | .error refusal => exact hQ.done (fits_error _)
        | .ok (some snapshot) => exact settleIn_of_comesBack hQ (ih now) snapshot
        | .ok none =>
            refine hQ.create ?_
            intro created
            cases created with
            | error refusal => exact hQ.done (fits_error _)
            | ok _ => exact ih now

/-- **A migrated call invokes a method that it was granted**, whoever answers. -/
theorem exists_granted_of_migrate {σ : Type} {host : Host σ} {state : σ} {fix : MigratedCall}
    (h : ((call.migrate model options).run host state).1 = .ok fix) :
    ∃ wish span d isReused, call.wish model options = .ok wish ∧
      fix = call.fix options wish.roles span d isReused ∧ IsGranted wish d isReused := by
  rw [migrate] at h
  cases hwish : call.wish model options with
  | error e =>
      rw [hwish] at h
      cases h
  | ok wish =>
      rw [hwish] at h
      have hensures : (call.attempt options wish options.retryBudget 0).Ensures
          (call.Fits options wish) :=
        attempt_of_comesBack (Session.comesBack_ensures _) _ _
      obtain ⟨span, d, isReused, hfix, hgranted⟩ := hensures.run host state fix h
      exact ⟨wish, span, d, isReused, rfl, hfix, hgranted⟩

/-- It has the shape that the call asked for. -/
theorem exists_wish_of_migrate {σ : Type} {host : Host σ} {state : σ} {fix : MigratedCall}
    (h : ((call.migrate model options).run host state).1 = .ok fix) :
    ∃ wish span d isReused, call.wish model options = .ok wish ∧
      fix = call.fix options wish.roles span d isReused ∧ d.shape = wish.wanted.shape := by
  obtain ⟨wish, span, d, isReused, hwish, hfix, hgranted⟩ := exists_granted_of_migrate h
  exact ⟨wish, span, d, isReused, hwish, hfix, hgranted.shape_eq⟩

end StructuredLog.AdHocCall
