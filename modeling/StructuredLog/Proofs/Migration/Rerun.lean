import StructuredLog.Migration.Batch
import StructuredLog.Proofs.Migration.Outcome
import StructuredLog.Proofs.Migration.Replay
import StructuredLog.Proofs.Migration.Settling

/-! # Rerun — migrating calls once more

    Migration adds methods at the end of a container and under free names only
    (`Grows`).  So a name that has methods keeps just these, and whatever a
    call has settled on it settles on again, however much others have added
    since (`verdict_again`): calls that are migrated once more reuse what they
    reused or minted, fail for the reason they failed for, and change nothing
    (`Migrator.decideAll_again`).

    A batch that was cancelled after some of its calls can therefore be run
    again as if it had not been run at all (`Migrator.rerun_after_cancellation`). -/

namespace StructuredLog

/-- The one list of declarations became the other: what was added comes last, under
    names that were free, and nothing was added once the last event id was in
    use. -/
def Grows (ds ds' : List Declaration) : Prop :=
  ∃ added, ds' = ds ++ added ∧ (∀ d ∈ added, d.name ∉ ds.map Declaration.name) ∧
    (Container.lastEventId ∈ ds.map (·.marking.eventId) → added = [])

namespace Grows

variable {ds ds' ds'' : List Declaration} {container : String} {wanted : WantedMethod} {n : Nat}

theorem refl (ds : List Declaration) : Grows ds ds :=
  ⟨[], (List.append_nil ds).symm, fun _ h => (nomatch h), fun _ => rfl⟩

/-- What is added later is new to the first list as well. -/
theorem trans (h : Grows ds ds') (h' : Grows ds' ds'') : Grows ds ds'' := by
  obtain ⟨added, rfl, hnew, hlast⟩ := h
  obtain ⟨added', rfl, hnew', hlast'⟩ := h'
  refine ⟨added ++ added', List.append_assoc ds added added', ?_, ?_⟩
  · intro d hd
    rcases List.mem_append.mp hd with hd | hd
    · exact hnew d hd
    · intro hmem
      refine hnew' d hd ?_
      rw [List.map_append]
      exact List.mem_append_left _ hmem
  · intro hin
    have hin' : Container.lastEventId ∈ (ds ++ added).map (·.marking.eventId) := by
      rw [List.map_append]
      exact List.mem_append_left _ hin
    rw [hlast hin, hlast' hin']
    rfl

/-! ## Names that are taken -/

/-- A name that has methods keeps just these. -/
theorem named_eq (h : Grows ds ds') {name : String}
    (hname : name ∈ (Container.ofDeclarations container ds).names) :
    (Container.ofDeclarations container ds').named name
      = (Container.ofDeclarations container ds).named name := by
  obtain ⟨added, rfl, hnew, -⟩ := h
  have hothers : (Container.ofDeclarations container added).named name = [] := by
    rw [Container.named_eq_nil_iff, Container.names_ofDeclarations]
    rw [Container.names_ofDeclarations] at hname
    intro hadded
    obtain ⟨d, hd, rfl⟩ := List.mem_map.mp hadded
    exact hnew d hd hname
  rw [Container.named_ofDeclarations_append, hothers, List.append_nil]

theorem mem_names (h : Grows ds ds') {name : String}
    (hname : name ∈ (Container.ofDeclarations container ds).names) :
    name ∈ (Container.ofDeclarations container ds').names := by
  obtain ⟨added, rfl, -, -⟩ := h
  rw [Container.names_ofDeclarations] at hname ⊢
  rw [List.map_append]
  exact List.mem_append_left _ hname

theorem ofShape?_eq (h : Grows ds ds') {name : String}
    (hname : name ∈ (Container.ofDeclarations container ds).names) (shape : Shape) :
    (Container.ofDeclarations container ds').ofShape? name shape
      = (Container.ofDeclarations container ds).ofShape? name shape := by
  rw [Container.ofShape?, h.named_eq hname]
  rfl

/-- What was passed over is passed over again. -/
theorem passesOver (h : Grows ds ds')
    (hpasses : (Container.ofDeclarations container ds).PassesOver wanted n) :
    (Container.ofDeclarations container ds').PassesOver wanted n := by
  intro i hi hlt
  obtain ⟨htaken, hnone⟩ := hpasses i hi hlt
  exact ⟨h.mem_names htaken, (h.ofShape?_eq htaken wanted.shape).trans hnone⟩

/-- **The method that was found is found again.** -/
theorem stopsAt_of_some (h : Grows ds ds') {method : Signature}
    (hstops : (Container.ofDeclarations container ds).StopsAt wanted n (some method)) :
    (Container.ofDeclarations container ds').StopsAt wanted n (some method) := by
  obtain ⟨hmem, hname, -⟩ := Container.of_ofShape?_eq_some hstops.found_eq
  have htaken : wanted.nthName n ∈ (Container.ofDeclarations container ds).names :=
    List.mem_map.mpr ⟨method, hmem, hname⟩
  exact ⟨hstops.pos, h.passesOver hstops.passes,
    (h.ofShape?_eq htaken wanted.shape).trans hstops.found_eq, (nomatch ·)⟩

/-- What comes first still comes first. -/
theorem find?_eq (h : Grows ds ds') {p : Declaration → Bool} {d : Declaration}
    (hd : ds.find? p = some d) : ds'.find? p = some d := by
  obtain ⟨added, rfl, -, -⟩ := h
  rw [List.find?_append, hd]
  rfl

/-! ## What a migration adds -/

/-- A method under a free name, while there is a free event id. -/
theorem concat {minted : Declaration} {eventId base : Int32}
    (hstops : (Container.ofDeclarations container ds).StopsAt wanted n none)
    (heventId : (Container.ofDeclarations container ds).nextEventId? base = some eventId)
    (hname : minted.name = wanted.nthName n) : Grows ds (ds ++ [minted]) := by
  refine ⟨[minted], rfl, ?_, ?_⟩
  · intro d hd
    rw [List.mem_singleton.mp hd, hname, ← Container.names_ofDeclarations container]
    exact hstops.free rfl
  · intro hin
    rw [← Container.eventIds_ofDeclarations container] at hin
    rw [Container.nextEventId?_eq_none_iff.mpr hin] at heventId
    exact nomatch heventId

/-- The method that was minted is found from then on. -/
theorem stopsAt_minted {minted : Declaration} (h : Grows ds (ds ++ [minted]))
    (hstops : (Container.ofDeclarations container ds).StopsAt wanted n none)
    (hname : minted.name = wanted.nthName n) (hshape : minted.shape = wanted.shape) :
    (Container.ofDeclarations container (ds ++ [minted])).StopsAt wanted n
      (some minted.signature) := by
  refine ⟨hstops.pos, h.passesOver hstops.passes, ?_, (nomatch ·)⟩
  have hnone : (Container.ofDeclarations container ds).named (wanted.nthName n) = [] :=
    Container.named_eq_nil_iff.mpr (hstops.free rfl)
  have hnamed : (Container.ofDeclarations container (ds ++ [minted])).named (wanted.nthName n)
      = [minted.signature] := by
    rw [Container.named_ofDeclarations_append, hnone, List.nil_append]
    exact List.filter_cons_of_pos (beq_iff_eq.mpr hname)
  rw [Container.ofShape?, hnamed]
  exact List.find?_cons_of_pos (beq_iff_eq.mpr hshape)

/-- The method that was minted is the only one of its name. -/
theorem find?_minted {minted : Declaration} (hstops :
    (Container.ofDeclarations container ds).StopsAt wanted n none)
    (hname : minted.name = wanted.nthName n) :
    (ds ++ [minted]).find? (·.signature == minted.signature) = some minted := by
  have hnone : ds.find? (·.signature == minted.signature) = none := by
    refine List.find?_eq_none.mpr ?_
    intro d hd heq
    have hsame : d.name = minted.name := congrArg Signature.name (beq_iff_eq.mp heq)
    refine hstops.free rfl ?_
    rw [Container.names_ofDeclarations, ← hname, ← hsame]
    exact List.mem_map_of_mem hd
  rw [List.find?_append, hnone, Option.none_or]
  exact List.find?_cons_of_pos (beq_self_eq_true minted.signature)

/-- What a verdict appends is an addition. -/
theorem verdict (options : MigrationOptions) (call : AdHocCall) (wish : MethodWish)
    (ds : List Declaration) : Grows ds (ds ++ (call.verdict options wish ds).minted?.toList) := by
  cases hminted : (call.verdict options wish ds).minted? with
  | none =>
      rw [Option.toList_none, List.append_nil]
      exact .refl ds
  | some minted =>
      obtain ⟨n, eventId, hstops, heventId, rfl⟩ :=
        AdHocCall.exists_stopsAt_of_minted? hminted
      exact .concat hstops heventId rfl

end Grows

/-! ## The same verdict again -/

/-- The fix of a call whose method exists by now. -/
def MigratedCall.asReused (fix : MigratedCall) : MigratedCall :=
  { fix with isReused := true }

/-- The result for a call that is migrated once more. -/
def again (result : MigrationResult) : MigrationResult :=
  result.map MigratedCall.asReused

/-- **A verdict is come to again**, with nothing to append, on declarations that grew
    out of those that it left. -/
theorem AdHocCall.verdict_again (options : MigrationOptions) (call : AdHocCall)
    (wish : MethodWish) {ds ds' : List Declaration}
    (h : Grows (ds ++ (call.verdict options wish ds).minted?.toList) ds') :
    call.verdict options wish ds' = ⟨again (call.verdict options wish ds).result, none⟩ := by
  obtain ⟨n, found, hstops⟩ :=
    (Container.ofDeclarations options.containerName ds).exists_stopsAt wish.wanted
  cases found with
  | some method =>
      obtain ⟨stored, hstored, hverdict⟩ := verdict_of_stopsAt_some call hstops
      rw [hverdict, Option.toList_none, List.append_nil] at h
      obtain ⟨stored', hstored', hverdict'⟩ :=
        verdict_of_stopsAt_some call (h.stopsAt_of_some hstops)
      rw [h.find?_eq hstored] at hstored'
      obtain rfl := Option.some.inj hstored'
      rw [hverdict, hverdict']
      rfl
  | none =>
      cases heventId : (Container.ofDeclarations options.containerName ds).nextEventId?
          options.firstEventId with
      | none =>
          rw [verdict_of_exhausted call hstops heventId, Option.toList_none,
            List.append_nil] at h
          -- the last event id was in use, so nothing was added
          obtain ⟨added, rfl, -, hlast⟩ := h
          have hin := Container.nextEventId?_eq_none_iff.mp heventId
          rw [Container.eventIds_ofDeclarations] at hin
          rw [hlast hin, List.append_nil, verdict_of_exhausted call hstops heventId]
          rfl
      | some eventId =>
          have hverdict := verdict_of_stopsAt_none call hstops heventId
          rw [hverdict] at h
          have hgrows : Grows ds (ds ++ [wish.declare (wish.wanted.nthName n) eventId]) :=
            .concat hstops heventId rfl
          have hfound := hgrows.stopsAt_minted hstops rfl rfl
          obtain ⟨stored, hstored, hverdict'⟩ :=
            verdict_of_stopsAt_some call (h.stopsAt_of_some hfound)
          rw [h.find?_eq (Grows.find?_minted hstops rfl)] at hstored
          obtain rfl := Option.some.inj hstored
          rw [hverdict, hverdict']
          rfl

namespace Migrator

variable {m : Migrator} {ms : List Migrator} {ledger ledger' : Ledger}

/-- A decision only lets the declarations of a container grow. -/
theorem grows_decide (m : Migrator) (ledger : Ledger) (name : String) :
    Grows (ledger name) ((m.decide ledger).2 name) := by
  cases hwish : m.wish with
  | error e =>
      rw [decide_of_error hwish]
      exact .refl _
  | ok wish =>
      simp only [decide_of_ok hwish, Function.update_apply]
      by_cases hname : name = m.container
      · rw [if_pos hname, hname]
        exact .verdict m.options m.call wish (ledger m.container)
      · rw [if_neg hname]
        exact .refl _

theorem grows_decideAll (ms : List Migrator) (ledger : Ledger) (name : String) :
    Grows (ledger name) ((decideAll ms ledger).2 name) := by
  induction ms generalizing ledger with
  | nil => exact .refl _
  | cons m ms ih => exact (grows_decide m ledger name).trans (ih _)

/-- A migrator that comes once more decides as before, and changes nothing. -/
theorem decide_again (h : ∀ name, Grows ((m.decide ledger).2 name) (ledger' name)) :
    m.decide ledger' = (again (m.decide ledger).1, ledger') := by
  cases hwish : m.wish with
  | error e =>
      rw [decide_of_error hwish, decide_of_error hwish]
      rfl
  | ok wish =>
      have hgrows := h m.container
      simp only [decide_of_ok hwish, Function.update_self] at hgrows
      rw [decide_of_ok hwish, decide_of_ok hwish,
        AdHocCall.verdict_again m.options m.call wish hgrows, AdHocCall.update_append_nothing]

/-- **Migrators that come once more decide as before**, and change nothing. -/
theorem decideAll_again (h : ∀ name, Grows ((decideAll ms ledger).2 name) (ledger' name)) :
    decideAll ms ledger' = ((decideAll ms ledger).1.map again, ledger') := by
  induction ms generalizing ledger with
  | nil => rfl
  | cons m ms ih =>
      have hfirst := decide_again fun name => (grows_decideAll ms _ name).trans (h name)
      show ((m.decide ledger').1 :: (decideAll ms (m.decide ledger').2).1,
        (decideAll ms (m.decide ledger').2).2) = _
      rw [hfirst, ih h]
      rfl

/-- The first `k` of some migrators come once more, together with the others. -/
theorem decideAll_rerun (ms : List Migrator) (k : Nat) (ledger : Ledger) :
    decideAll ms (decideAll (ms.take k) ledger).2
      = (((decideAll ms ledger).1.take k).map again ++ (decideAll ms ledger).1.drop k,
          (decideAll ms ledger).2) := by
  rcases Nat.le_total k ms.length with hk | hk
  · have hfirst : (decideAll (ms.take k) ledger).1.length = k := by
      rw [length_decideAll, List.length_take, Nat.min_eq_left hk]
    have hsplit := decideAll_append (ms.take k) (ms.drop k)
    rw [List.take_append_drop] at hsplit
    rw [hsplit, hsplit ledger, decideAll_again fun _ => .refl _, List.take_left' hfirst,
      List.drop_left' hfirst]
  · -- all of them come once more
    have hall : (decideAll ms ledger).1.length ≤ k := by
      rwa [length_decideAll]
    rw [List.take_of_length_le hk, decideAll_again fun _ => .refl _,
      List.take_of_length_le hall, List.drop_eq_nil_of_le hall, List.append_nil]

/-! ## Batches -/

/-- The migrators of a batch. -/
def ofCalls (table : TypeFacts) (options : MigrationOptions) (calls : List AdHocCall) :
    List Migrator :=
  calls.map fun call => ⟨table, options, call⟩

end Migrator

/-- A front end that finds every call where it was, and cancels once it was asked as
    often as its state says. -/
def FrontEnd.cancelling : FrontEnd Nat where
  relocate call left := (some call.span, left)
  isCancelled
    | 0 => (true, 0)
    | left + 1 => (false, left)

namespace AdHocCall

theorem uninterruptible_attempt (options : MigrationOptions) (call : AdHocCall)
    (wish : MethodWish) (attempts last : Nat) :
    (call.attempt options wish attempts last).Uninterruptible :=
  attempt_of_comesBack (Session.comesBack_uninterruptible _) attempts last

end AdHocCall

namespace Migrator

/-- A migration never asks whether it was cancelled. -/
theorem uninterruptible_session (m : Migrator) : m.session.Uninterruptible := by
  cases hwish : m.wish with
  | error e =>
      rw [session_of_error hwish]
      trivial
  | ok wish =>
      rw [session_of_ok hwish]
      exact AdHocCall.uninterruptible_attempt m.options m.call wish _ _

/-- Over the store, a batch comes to what its migrators come to one after another. -/
theorem run_migrateAll (table : TypeFacts) (options : MigrationOptions)
    (calls : List AdHocCall) (s : Store) :
    (migrateAll (.ofTable table) options calls).run Store.host s
      = replay (ofCalls table options calls) s := by
  induction calls generalizing s with
  | nil => rfl
  | cons call calls ih =>
      show Session.run Store.host (Session.bind _ _) s = _
      rw [Session.run_bind, Session.run_bind, ih]
      rfl

/-- A batch that cannot be cancelled is its migrators one after another. -/
theorem run_migrateBatch (table : TypeFacts) (options : MigrationOptions)
    (calls : List AdHocCall) (s : Store) :
    (migrateBatch (.ofTable table) options calls).run Store.host s
      = (⟨(replay (ofCalls table options calls) s).1⟩,
          (replay (ofCalls table options calls) s).2) := by
  show Session.run Store.host (Session.bind _ _) s = _
  rw [Session.run_bind, run_migrateAll]
  rfl

/-- A batch that nobody cancels comes to what its migrators come to one after another. -/
theorem run_migrateAllUnlessCancelled (table : TypeFacts) (options : MigrationOptions)
    (calls : List AdHocCall) (s : Store) :
    (migrateAllUnlessCancelled (.ofTable table) options calls).run Store.host s
      = (.ok (replay (ofCalls table options calls) s).1,
          (replay (ofCalls table options calls) s).2) := by
  induction calls generalizing s with
  | nil => rfl
  | cons call calls ih =>
      show Session.run Store.host (Session.bind _ _) s = _
      rw [Session.run_bind, Session.run_bind, ih]
      rfl

/-- A batch that is not cancelled is its migrators one after another. -/
theorem run_migrateBatchCancellable (table : TypeFacts) (options : MigrationOptions)
    (calls : List AdHocCall) (s : Store) :
    (migrateBatchCancellable (.ofTable table) options calls).run Store.host s
      = (.ok ⟨(replay (ofCalls table options calls) s).1⟩,
          (replay (ofCalls table options calls) s).2) := by
  show Session.run Store.host (Session.bind _ _) s = _
  rw [Session.run_bind, run_migrateAllUnlessCancelled]
  rfl

/-- A batch that is cancelled after some of its calls is the migrators of these, one
    after another, and hands out no results unless these are all. -/
theorem run_migrateAllUnlessCancelled_cancelling (table : TypeFacts)
    (options : MigrationOptions) (calls : List AdHocCall) (s : Store) (k : Nat) :
    ∃ left, (migrateAllUnlessCancelled (.ofTable table) options calls).run
        FrontEnd.cancelling.withStore (s, k)
      = (if k < calls.length then .error .beforeEnd
          else .ok (replay (ofCalls table options calls) s).1,
        (replay (ofCalls table options (calls.take k)) s).2, left) := by
  induction calls generalizing s k with
  | nil =>
      rw [List.take_nil]
      exact ⟨k, rfl⟩
  | cons call calls ih =>
      cases k with
      | zero => exact ⟨0, rfl⟩
      | succ k =>
          have hmore : k + 1 < (call :: calls).length ↔ k < calls.length :=
            Nat.succ_lt_succ_iff
          have hcall : (session ⟨table, options, call⟩).run FrontEnd.cancelling.withStore (s, k)
              = _ :=
            Session.run_withStore_of_uninterruptible (fun _ _ => rfl) (uninterruptible_session _) s k
          obtain ⟨left, hrest⟩ := ih ((session ⟨table, options, call⟩).run Store.host s).2 k
          refine ⟨left, ?_⟩
          show Session.run FrontEnd.cancelling.withStore
            (Session.bind (session ⟨table, options, call⟩) _) (s, k) = _
          rw [Session.run_bind, hcall, Session.run_bind, hrest]
          by_cases hk : k < calls.length
          · rw [if_pos hk, if_pos (hmore.mpr hk)]
            rfl
          · rw [if_neg hk, if_neg (mt hmore.mp hk)]
            rfl

/-- A batch that is cancelled after `k` calls has no result if calls are left, and leaves the
    store as the first `k` calls do. -/
theorem run_migrateBatchCancellable_cancelling (table : TypeFacts)
    (options : MigrationOptions) (calls : List AdHocCall) (s : Store) (k : Nat) :
    let cancelled := (migrateBatchCancellable (.ofTable table) options calls).run
      FrontEnd.cancelling.withStore (s, k)
    (k < calls.length → cancelled.1 = .error .beforeEnd) ∧
      cancelled.2.1 = (replay ((ofCalls table options calls).take k) s).2 := by
  intro cancelled
  obtain ⟨left, hrun⟩ := run_migrateAllUnlessCancelled_cancelling table options calls s k
  have hcancelled : cancelled = _ := Session.run_bind _ _ _ _
  rw [hrun] at hcancelled
  rw [hcancelled, ofCalls, ← List.map_take]
  refine ⟨?_, rfl⟩
  intro hk
  rw [if_pos hk]
  rfl

/-- **A cancelled batch can be run again.**  Cancelled after `k` of its calls and run
    again to its end, a batch leaves the declarations of one run without a break,
    and has its results, but for the methods of the first `k` calls, which are
    reused by then. -/
theorem rerun_after_cancellation (table : TypeFacts) (options : MigrationOptions)
    (hbudget : 2 ≤ options.retryBudget) (calls : List AdHocCall) (k : Nat) {start : Store}
    (hstart : start.Reachable) :
    let batch := migrateBatchCancellable (.ofTable table) options calls
    let cancelled := batch.run FrontEnd.cancelling.withStore (start, k)
    let unbroken := batch.run Store.host start
    let rerun := batch.run Store.host cancelled.2.1
    (k < calls.length → cancelled.1 = .error .beforeEnd) ∧
      rerun.2.declarations = unbroken.2.declarations ∧
      ∃ fixes, fixes.length = calls.length ∧ unbroken.1 = .ok ⟨fixes⟩ ∧
        rerun.1 = .ok ⟨(fixes.take k).map again ++ fixes.drop k⟩ := by
  intro batch cancelled unbroken rerun
  have hbudgets : ∀ m ∈ ofCalls table options calls, 2 ≤ m.options.retryBudget := by
    intro m hm
    obtain ⟨call, -, rfl⟩ := List.mem_map.mp hm
    exact hbudget
  obtain ⟨hcancelled, hreached⟩ :=
    run_migrateBatchCancellable_cancelling table options calls start k
  have hfirst : ∀ m ∈ (ofCalls table options calls).take k, 2 ≤ m.options.retryBudget :=
    fun m hm => hbudgets m (List.mem_of_mem_take hm)
  -- all three runs are replays on declarations
  obtain ⟨hresults, hledger⟩ := replay_eq hstart.consistent hbudgets
  obtain ⟨-, hreachedLedger⟩ := replay_eq hstart.consistent hfirst
  obtain ⟨hresults', hledger'⟩ := replay_eq
    (consistent_replay hstart.consistent ((ofCalls table options calls).take k)) hbudgets
  rw [hreachedLedger, decideAll_rerun] at hresults' hledger'
  have hunbroken : unbroken = _ := run_migrateBatchCancellable table options calls start
  have hrerun : rerun = _ := run_migrateBatchCancellable table options calls cancelled.2.1
  rw [show cancelled.2.1 = _ from hreached] at hrerun
  rw [hunbroken, hrerun, hresults, hresults', hledger, hledger']
  refine ⟨hcancelled, rfl, _, ?_, rfl, rfl⟩
  rw [length_decideAll, ofCalls, List.length_map]

/-- A call without template arguments. -/
def greeting (method template : String) : AdHocCall where
  method
  receiver := { text := "_logger", type? := some "ILogger" }
  arguments := [.ofText template]

/-- The second `Hello` takes the name that the last template starts from; between them a
    call has no message. -/
def greetings : List AdHocCall :=
  [greeting "LogInformation" "Hello", greeting "LogDebug" "Hello",
    { greeting "LogDebug" "" with arguments := [] }, greeting "LogDebug" "Hello2"]

/-- Which methods of a batch existed already. -/
def reuses (batch : Except Cancelled MigratedBatch) : Except Cancelled (List (Option Bool)) :=
  batch.map fun done => done.fixes.map fun fix => (fix.map MigratedCall.isReused).toOption

/-- The rerun reuses what was minted before the cancellation, and mints the rest. -/
theorem rerun_after_cancellation_greetings :
    let batch := migrateBatchCancellable (.ofTable .conventional) {} greetings
    let cancelled := batch.run FrontEnd.cancelling.withStore (.empty, 3)
    let unbroken := batch.run Store.host .empty
    let rerun := batch.run Store.host cancelled.2.1
    2 ≤ ({} : MigrationOptions).retryBudget ∧ Store.empty.Reachable ∧
      reuses unbroken.1 = .ok [some false, some false, none, some false] ∧
      reuses rerun.1 = .ok [some true, some true, none, some false] ∧
      cancelled.1 = .error .beforeEnd ∧
      rerun.2.declarations = unbroken.2.declarations ∧
      ∃ fixes, fixes.length = 4 ∧ unbroken.1 = .ok ⟨fixes⟩ ∧
        rerun.1 = .ok ⟨(fixes.take 3).map again ++ fixes.drop 3⟩ := by
  have hbudget : 2 ≤ ({} : MigrationOptions).retryBudget := by decide
  obtain ⟨hcancelled, hrest⟩ :=
    rerun_after_cancellation .conventional {} hbudget greetings 3 .empty
  exact ⟨hbudget, .empty, by decide +kernel, by decide +kernel, hcancelled (by decide), hrest⟩

end Migrator

end StructuredLog
