import StructuredLog.Proofs.Migration.Verdict

/-! # Replay — migrators one after another

    A migrator is set up to migrate one call into one container.  Given two
    attempts, and the store to itself, it does to the declarations of the store
    what its verdict says (`Migrator.run_session`), whether the container is
    there or not.  So migrators that take the store one after another can be
    replayed on the declarations alone (`Migrator.replay_eq`), what every verdict
    preserves holds in the end (`Migrator.replay_preserves`), and a migrator that
    fails for a reason that lies in its call may stand anywhere
    (`Migrator.decideAll_of_filter`). -/

namespace StructuredLog

/-- The declarations of every container. -/
abbrev Ledger := String → List Declaration

/-- A set-up for migrating one call. -/
structure Migrator where
  table : TypeFacts
  options : MigrationOptions
  call : AdHocCall

namespace Migrator

/-- The method that the call wants. -/
def wish (m : Migrator) : Except MigrationFailure MethodWish :=
  m.call.wish (.ofTable m.table) m.options

/-- The migration. -/
def session (m : Migrator) : Session MigrationResult :=
  m.call.migrate (.ofTable m.table) m.options

/-- The container that the migration works in. -/
abbrev container (m : Migrator) : String :=
  m.options.containerName

/-- The result of the migration on a ledger, and the ledger afterwards. -/
def decide (m : Migrator) (ledger : Ledger) : MigrationResult × Ledger :=
  match m.wish with
  | .error e => (.error e, ledger)
  | .ok wish =>
    let verdict := m.call.verdict m.options wish (ledger m.container)
    (verdict.result,
      Function.update ledger m.container (ledger m.container ++ verdict.minted?.toList))

/-- The results of migrations one after another on a ledger, and the ledger
    afterwards. -/
def decideAll : List Migrator → Ledger → List MigrationResult × Ledger
  | [], ledger => ([], ledger)
  | m :: ms, ledger =>
    let (result, ledger) := m.decide ledger
    let (results, ledger) := decideAll ms ledger
    (result :: results, ledger)

/-- Migrations that have the store one after another. -/
def replay : List Migrator → Store → List MigrationResult × Store
  | [], s => ([], s)
  | m :: ms, s =>
    let (result, s) := m.session.run Store.host s
    let (results, s) := replay ms s
    (result :: results, s)

variable {m : Migrator} {ms : List Migrator} {s : Store}

theorem session_of_error {e : MigrationFailure} (h : m.wish = .error e) :
    m.session = .done (.error e) := by
  show (match m.wish with | .error e => _ | .ok wish => _ : Session MigrationResult) = _
  rw [h]

theorem session_of_ok {wish : MethodWish} (h : m.wish = .ok wish) :
    m.session = m.call.attempt m.options wish m.options.retryBudget 0 := by
  show (match m.wish with | .error e => _ | .ok wish => _ : Session MigrationResult) = _
  rw [h]

theorem decide_of_error {e : MigrationFailure} (h : m.wish = .error e) (ledger : Ledger) :
    m.decide ledger = (.error e, ledger) := by
  rw [decide, h]

theorem decide_of_ok {wish : MethodWish} (h : m.wish = .ok wish) (ledger : Ledger) :
    m.decide ledger
      = ((m.call.verdict m.options wish (ledger m.container)).result,
          Function.update ledger m.container (ledger m.container ++
            (m.call.verdict m.options wish (ledger m.container)).minted?.toList)) := by
  rw [decide, h]

/-! ## The store and its declarations -/

/-- **Alone with a store, a migrator decides on its declarations.** -/
theorem run_session (hs : s.Consistent) (hbudget : 2 ≤ m.options.retryBudget) :
    (m.session.run Store.host s).2.Consistent ∧
      (m.session.run Store.host s).1 = (m.decide s.declarations).1 ∧
      (m.session.run Store.host s).2.declarations = (m.decide s.declarations).2 := by
  cases hwish : m.wish with
  | error e =>
      rw [session_of_error hwish, decide_of_error hwish]
      exact ⟨hs, rfl, rfl⟩
  | ok wish =>
      obtain ⟨attempts, hattempts⟩ := Nat.exists_eq_add_of_le' hbudget
      rw [session_of_ok hwish, decide_of_ok hwish, hattempts]
      cases hentry : s.entry? m.container with
      | some entry =>
          obtain ⟨after, hafter, hledger, hrun⟩ :=
            m.call.run_attempt m.options wish hs hentry (Nat.zero_le _) (attempts + 1)
          rw [hrun]
          exact ⟨hafter, rfl, hledger⟩
      | none =>
          -- the first attempt creates the container, the second one finds it
          obtain ⟨entry, hcreated⟩ := s.entry?_create m.container
          obtain ⟨after, hafter, hledger, hrun⟩ :=
            m.call.run_attempt m.options wish (hs.create m.container) hcreated
              (s.precedes_create m.container).generation_le attempts
          rw [s.declarations_create] at hledger hrun
          rw [AdHocCall.run_attempt_of_absent m.options m.call wish hentry (Nat.zero_le _), hrun]
          exact ⟨hafter, rfl, hledger⟩

/-- Alone with a store, a migrator decides on its declarations, or gives up and
    leaves them. -/
theorem run_session_cases (hs : s.Consistent) (m : Migrator) :
    (m.session.run Store.host s).2.Consistent ∧
      ((m.session.run Store.host s).2.declarations = s.declarations ∨
        (m.session.run Store.host s).2.declarations = (m.decide s.declarations).2) := by
  by_cases hbudget : 2 ≤ m.options.retryBudget
  · obtain ⟨hafter, -, hledger⟩ := run_session hs hbudget
    exact ⟨hafter, .inr hledger⟩
  · cases hwish : m.wish with
    | error e =>
        rw [session_of_error hwish]
        exact ⟨hs, .inl rfl⟩
    | ok wish =>
        rw [session_of_ok hwish, decide_of_ok hwish]
        obtain hzero | hone : m.options.retryBudget = 0 ∨ m.options.retryBudget = 0 + 1 := by
          omega
        · rw [hzero]
          exact ⟨hs, .inl rfl⟩
        · rw [hone]
          cases hentry : s.entry? m.container with
          | some entry =>
              obtain ⟨after, hafter, hledger, hrun⟩ :=
                m.call.run_attempt m.options wish hs hentry (Nat.zero_le _) 0
              rw [hrun]
              exact ⟨hafter, .inr hledger⟩
          | none =>
              rw [AdHocCall.run_attempt_of_absent m.options m.call wish hentry (Nat.zero_le _)]
              exact ⟨hs.create m.container, .inl (s.declarations_create m.container)⟩

theorem consistent_replay (hs : s.Consistent) (ms : List Migrator) :
    (replay ms s).2.Consistent := by
  induction ms generalizing s with
  | nil => exact hs
  | cons m ms ih => exact ih (run_session_cases hs m).1

/-- What the verdict of a migrator preserves in its container, the migrator preserves
    in every container. -/
theorem decide_preserves {P : String → List Declaration → Prop}
    (hverdict : ∀ wish, m.wish = .ok wish → ∀ ds, P m.container ds →
      P m.container (ds ++ (m.call.verdict m.options wish ds).minted?.toList))
    {ledger : Ledger} {name : String} (h : P name (ledger name)) :
    P name ((m.decide ledger).2 name) := by
  cases hwish : m.wish with
  | error e =>
      rw [decide_of_error hwish]
      exact h
  | ok wish =>
      simp only [decide_of_ok hwish, Function.update_apply]
      by_cases hname : name = m.container
      · rw [if_pos hname]
        subst hname
        exact hverdict wish hwish _ h
      · rw [if_neg hname]
        exact h

/-- **What every verdict preserves, a replay preserves.** -/
theorem replay_preserves {P : String → List Declaration → Prop}
    (hverdict : ∀ m ∈ ms, ∀ wish, m.wish = .ok wish → ∀ ds, P m.container ds →
      P m.container (ds ++ (m.call.verdict m.options wish ds).minted?.toList))
    (hs : s.Consistent) {name : String} (h : P name (s.declarations name)) :
    P name ((replay ms s).2.declarations name) := by
  induction ms generalizing s with
  | nil => exact h
  | cons m ms ih =>
      obtain ⟨hm, hms⟩ := List.forall_mem_cons.mp hverdict
      obtain ⟨hafter, hledger⟩ := run_session_cases hs m
      refine ih hms hafter ?_
      rcases hledger with hledger | hledger
      · rwa [hledger]
      · rw [hledger]
        exact decide_preserves hm h

/-- Replaying on a store is replaying on its declarations. -/
theorem replay_eq (hs : s.Consistent) (hbudget : ∀ m ∈ ms, 2 ≤ m.options.retryBudget) :
    (replay ms s).1 = (decideAll ms s.declarations).1 ∧
      (replay ms s).2.declarations = (decideAll ms s.declarations).2 := by
  induction ms generalizing s with
  | nil => exact ⟨rfl, rfl⟩
  | cons m ms ih =>
      obtain ⟨hconsistent, hresult, hledger⟩ := run_session hs (hbudget m List.mem_cons_self)
      obtain ⟨hresults, hledgers⟩ :=
        ih hconsistent fun m' hm' => hbudget m' (List.mem_cons_of_mem m hm')
      rw [hledger] at hresults hledgers
      exact ⟨congrArg₂ List.cons hresult hresults, hledgers⟩

/-! ## Orders of migrators -/

/-- Later migrators decide on what the earlier ones left. -/
theorem decideAll_append (ms ms' : List Migrator) (ledger : Ledger) :
    decideAll (ms ++ ms') ledger
      = ((decideAll ms ledger).1 ++ (decideAll ms' (decideAll ms ledger).2).1,
          (decideAll ms' (decideAll ms ledger).2).2) := by
  induction ms generalizing ledger with
  | nil => rfl
  | cons m ms ih =>
      show (_ :: (decideAll (ms ++ ms') _).1, (decideAll (ms ++ ms') _).2) = _
      rw [ih]
      rfl

/-- One more migrator decides on what the others left. -/
theorem decideAll_concat (ms : List Migrator) (m : Migrator) (ledger : Ledger) :
    decideAll (ms ++ [m]) ledger
      = ((decideAll ms ledger).1 ++ [(m.decide (decideAll ms ledger).2).1],
          (m.decide (decideAll ms ledger).2).2) :=
  decideAll_append ms [m] ledger

/-- Each migrator has a result. -/
theorem length_decideAll (ms : List Migrator) (ledger : Ledger) :
    (decideAll ms ledger).1.length = ms.length := by
  induction ms generalizing ledger with
  | nil => rfl
  | cons m ms ih => exact congrArg Nat.succ (ih _)

/-- Migrators that want no method get their own error anywhere, and the others
    decide as without them. -/
theorem decideAll_of_filter {ι : Type} {migrators : ι → Migrator} (ledger : Ledger)
    {result? : ι → Option MigrationResult} {order : List ι}
    (herror : ∀ i ∈ order, ∀ e, (migrators i).wish = .error e → result? i = some (.error e))
    (h : (order.filter fun i => (migrators i).wish.isOk).map result?
      = (decideAll ((order.filter fun i => (migrators i).wish.isOk).map migrators)
          ledger).1.map some) :
    order.map result? = (decideAll (order.map migrators) ledger).1.map some ∧
      (decideAll (order.map migrators) ledger).2
        = (decideAll ((order.filter fun i => (migrators i).wish.isOk).map migrators) ledger).2 := by
  induction order generalizing ledger with
  | nil => exact ⟨rfl, rfl⟩
  | cons i order ih =>
      have hrest := fun j hj => herror j (List.mem_cons_of_mem i hj)
      show result? i :: order.map result?
          = some ((migrators i).decide ledger).1
              :: (decideAll (order.map migrators) ((migrators i).decide ledger).2).1.map some ∧
        (decideAll (order.map migrators) ((migrators i).decide ledger).2).2 = _
      cases hwish : (migrators i).wish with
      | error e =>
          -- the migrator is not among the others, and leaves the ledger to them
          rw [List.filter_cons_of_neg (by rw [hwish]; exact Bool.false_ne_true)] at h ⊢
          obtain ⟨hresults, hledger⟩ := ih ledger hrest h
          rw [decide_of_error hwish ledger, hresults]
          exact ⟨congrArg (· :: _) (herror i List.mem_cons_self e hwish), hledger⟩
      | ok wish =>
          rw [List.filter_cons_of_pos (by rw [hwish]; rfl)] at h ⊢
          obtain ⟨hresult, htail⟩ := List.cons.inj h
          obtain ⟨hresults, hledger⟩ := ih _ hrest htail
          exact ⟨congrArg₂ List.cons hresult hresults, hledger⟩

end Migrator

end StructuredLog
