import StructuredLog.Proofs.Migration.Replay

/-! # Phases — where a migrator stands among others

    Between two of its requests a migrator knows a generation that the store
    had, and before an append it knows a verdict on the declarations that were
    there at that generation (`Migrator.Phase`).  Whatever others do, this
    stays true: the store only moves on (`Migrator.Phase.mono`).

    A turn of the migrator itself either leaves all declarations as they are,
    or is its decisive request: a snapshot that nothing is to be appended to,
    or an accepted append.  The store then has the very declarations that the
    verdict is on (`Migrator.Phase.turn`). -/

namespace StructuredLog

/-- The migration gave up when its attempts were used up. -/
def gaveUp : MigrationResult → Bool
  | .error (.retryBudgetExhausted _ _) => true
  | _ => false

theorem gaveUp_of_liesInCall {e : MigrationFailure} (h : e.liesInCall = true) :
    gaveUp (.error e) = false := by
  cases e with
  | retryBudgetExhausted container attempts => exact nomatch h
  | notALoggingCall _ | missingArgument _ | nonConstantTemplate | typeUnavailable _ => rfl
  | syntaxLost | nonMonotonic _ _ | eventIdsExhausted _ | store _ => rfl

/-- The next attempt is not an answer to the front end. -/
theorem AdHocCall.settled_attempt (options : MigrationOptions) (call : AdHocCall)
    (wish : MethodWish) (attempts last : Nat) :
    (call.attempt options wish attempts last).settled
      = call.attempt options wish attempts last := by
  cases attempts with
  | zero => rfl
  | succ attempts => rfl

theorem AdHocCall.result?_attempt {options : MigrationOptions} {call : AdHocCall}
    {wish : MethodWish} {attempts last : Nat} {result : MigrationResult}
    (h : (call.attempt options wish attempts last).result? = some result) :
    result = .error (.retryBudgetExhausted options.containerName options.retryBudget) := by
  cases attempts with
  | zero => exact (Option.some.inj h).symm
  | succ attempts => exact nomatch h

theorem AdHocCall.gaveUp_of_result?_attempt {options : MigrationOptions} {call : AdHocCall}
    {wish : MethodWish} {attempts last : Nat} {result : MigrationResult}
    (h : (call.attempt options wish attempts last).result? = some result) :
    gaveUp result = true := by
  rw [AdHocCall.result?_attempt h]
  rfl

namespace Migrator

/-- What the session of a migrator rests on when the store is as given. -/
inductive Phase (m : Migrator) (s : Store) : Session MigrationResult → Prop where
  /-- The call wants no method. -/
  | refused {e : MigrationFailure} (hwish : m.wish = .error e) : Phase m s (.done (.error e))
  /-- An attempt is due, if any is left. -/
  | ready {wish : MethodWish} (hwish : m.wish = .ok wish) (attempts : Nat) {last : Nat}
      (hlast : last ≤ s.generation) : Phase m s (m.call.attempt m.options wish attempts last)
  /-- The generation is known, and the snapshot is due. -/
  | reading {wish : MethodWish} (hwish : m.wish = .ok wish) (attempts : Nat) {now : Nat}
      (hnow : now ≤ s.generation) :
      Phase m s (.snapshot m.container
        (m.call.onSnapshot m.options wish (m.call.attempt m.options wish attempts now)))
  /-- The container was missing. -/
  | creating {wish : MethodWish} (hwish : m.wish = .ok wish) (attempts : Nat) {now : Nat}
      (hnow : now ≤ s.generation) :
      Phase m s (.create m.container
        (AdHocCall.onCreated (m.call.attempt m.options wish attempts now)))
  /-- A method is to be appended, if nothing has changed since the snapshot. -/
  | appending {wish : MethodWish} (hwish : m.wish = .ok wish) (attempts : Nat) {now : Nat}
      (hnow : now ≤ s.generation) {generation : Nat} (hgeneration : generation ≤ s.generation)
      {ds : List Declaration}
      (hcurrent : generation = s.generation →
        s.entry? m.container = some (.ofDeclarations m.container ds))
      {fix : MigratedCall} {minted : Declaration}
      (hverdict : m.call.verdict m.options wish ds = ⟨.ok fix, some minted⟩) :
      Phase m s (.append m.container generation minted
        (AdHocCall.onAppended (m.call.attempt m.options wish attempts now) fix))
  /-- The migration came to a verdict. -/
  | decided {wish : MethodWish} (hwish : m.wish = .ok wish) {result : MigrationResult}
      (hresult : (∃ fix, result = .ok fix) ∨ result = .error (.eventIdsExhausted m.container)) :
      Phase m s (.done result)

/-- What a turn of a migrator does. -/
inductive Turn (m : Migrator) (s : Store) :
    StoreEvent → Session MigrationResult → Store → Prop where
  /-- Nothing is declared, and the session is not done unless it gives up. -/
  | goesOn {event : StoreEvent} {next : Session MigrationResult} {after : Store}
      (hevent : event ≠ .append true)
      (hnext : ∀ result, next.result? = some result → gaveUp result = true)
      (hledger : after.declarations = s.declarations) : Turn m s event next after
  /-- The request is decisive, and the migration decides on the declarations. -/
  | decides {event : StoreEvent} {result : MigrationResult} {after : Store}
      (hevent : event = .snapshot ∨ event = .append true) (hresult : gaveUp result = false)
      (hdecide : m.decide s.declarations = (result, after.declarations)) :
      Turn m s event (.done result) after

variable {m : Migrator} {s after : Store} {session next : Session MigrationResult}
  {event : StoreEvent}

/-- A turn that is no accepted append and gets no answer ready goes on. -/
theorem Turn.of_unfinished (hevent : event ≠ .append true) (hnext : next.result? = none)
    (hledger : after.declarations = s.declarations) : m.Turn s event next after := by
  refine .goesOn hevent ?_ hledger
  intro result hresult
  rw [hnext] at hresult
  injection hresult

/-- **Nothing that others do takes away what a session rests on.** -/
theorem Phase.mono (h : m.Phase s session) (hs : s.Precedes after) : m.Phase after session := by
  cases h with
  | refused hwish => exact .refused hwish
  | ready hwish attempts hlast =>
      exact .ready hwish attempts (Nat.le_trans hlast hs.generation_le)
  | reading hwish attempts hnow =>
      exact .reading hwish attempts (Nat.le_trans hnow hs.generation_le)
  | creating hwish attempts hnow =>
      exact .creating hwish attempts (Nat.le_trans hnow hs.generation_le)
  | appending hwish attempts hnow hgeneration hcurrent hverdict =>
      refine .appending hwish attempts (Nat.le_trans hnow hs.generation_le)
        (Nat.le_trans hgeneration hs.generation_le) ?_ hverdict
      intro heq
      -- the generation is still the same, so the store is
      rcases hs with rfl | hlt
      · exact hcurrent heq
      · exact absurd (Nat.lt_of_le_of_lt hgeneration hlt) (heq ▸ Nat.lt_irrefl _)
  | decided hwish hresult => exact .decided hwish hresult

/-- A migrator that wants no method is done. -/
theorem Phase.session_of_error (h : m.Phase s session) {e : MigrationFailure}
    (herror : m.wish = .error e) : session = .done (.error e) := by
  cases h with
  | refused hwish => rw [Except.error.inj (hwish.symm.trans herror)]
  | ready hwish | reading hwish | creating hwish | appending hwish | decided hwish =>
      exact nomatch hwish.symm.trans herror

/-- **Why a migration fails**: for its call, its budget, or the event ids. -/
theorem Phase.failure_cases {e : MigrationFailure} (h : m.Phase s (.done (.error e))) :
    e.liesInCall = true ∨ e = .retryBudgetExhausted m.container m.options.retryBudget ∨
      e = .eventIdsExhausted m.container := by
  generalize hsession : Session.done (Except.error e) = session at h
  cases h with
  | refused hwish =>
      obtain rfl := Except.error.inj (Session.done.inj hsession)
      exact .inl (AdHocCall.liesInCall_of_wish_eq_error hwish)
  | ready hwish attempts hlast =>
      have hresult := congrArg Session.result? hsession
      exact .inr (.inl (Except.error.inj (AdHocCall.result?_attempt hresult.symm)))
  | reading | creating | appending => exact nomatch hsession
  | decided hwish hresult =>
      obtain rfl := Session.done.inj hsession
      rcases hresult with ⟨_, hok⟩ | herror
      · exact nomatch hok
      · exact .inr (.inr (Except.error.inj herror))

/-- A session that is done on the verdict has decided. -/
theorem decide_of_minted?_eq_none {wish : MethodWish} (hwish : m.wish = .ok wish)
    (h : (m.call.verdict m.options wish (s.declarations m.container)).minted? = none) :
    m.decide s.declarations
      = ((m.call.verdict m.options wish (s.declarations m.container)).result, s.declarations) := by
  rw [decide_of_ok hwish, h, AdHocCall.update_append_nothing]

/-- A turn that finds the container: the migrator acts on the verdict. -/
theorem turn_of_snapshot {wish : MethodWish} (hwish : m.wish = .ok wish)
    {entry : StoreEntry} (hs : s.Consistent) (hentry : s.entry? m.container = some entry)
    (attempts : Nat) {now : Nat} (hnow : now ≤ s.generation) :
    m.Phase s ((m.call.verdict m.options wish (s.declarations m.container)).act m.container
        s.generation (m.call.attempt m.options wish attempts now)) ∧
      m.Turn s .snapshot ((m.call.verdict m.options wish (s.declarations m.container)).act
        m.container s.generation (m.call.attempt m.options wish attempts now)) s := by
  have hcases := m.call.verdict_cases m.options wish (s.declarations m.container)
  have hdecide := decide_of_minted?_eq_none (s := s) hwish
  rcases hcases with ⟨stored, -, hverdict⟩ | ⟨name, eventId, hverdict⟩ | hverdict
  · rw [hverdict] at hdecide ⊢
    exact ⟨.decided hwish (.inl ⟨_, rfl⟩), .decides (.inl rfl) rfl (hdecide rfl)⟩
  · rw [hverdict]
    refine ⟨.appending hwish attempts hnow (Nat.le_refl _) (fun _ => hs.entry?_eq hentry) hverdict,
      .of_unfinished StoreEvent.noConfusion rfl rfl⟩
  · rw [hverdict] at hdecide ⊢
    exact ⟨.decided hwish (.inr rfl), .decides (.inl rfl) rfl (hdecide rfl)⟩

/-- **A turn goes on or decides.** -/
theorem Phase.turn (h : m.Phase s session) (hs : s.Consistent)
    (hstep : session.step? s = some (event, next, after)) :
    m.wish.isOk = true ∧ s.Precedes after ∧ after.Consistent ∧ m.Phase after next ∧
      m.Turn s event next after := by
  have hok {wish : MethodWish} (hwish : m.wish = .ok wish) : m.wish.isOk = true := by
    rw [hwish]
    rfl
  cases h with
  | refused hwish => injection hstep
  | decided hwish hresult => injection hstep
  | ready hwish attempts hlast =>
      cases attempts with
      | zero => injection hstep
      | succ attempts =>
          rw [AdHocCall.attempt] at hstep
          simp only [Session.step?, if_neg (Nat.not_lt.mpr hlast), Session.settled,
            Option.some.injEq, Prod.mk.injEq] at hstep
          obtain ⟨rfl, rfl, rfl⟩ := hstep
          exact ⟨hok hwish, .refl s, hs, .reading hwish attempts (Nat.le_refl _),
            .of_unfinished StoreEvent.noConfusion rfl rfl⟩
  | reading hwish attempts hnow =>
      simp only [Session.step?, Option.some.injEq, Prod.mk.injEq] at hstep
      obtain ⟨rfl, rfl, rfl⟩ := hstep
      refine ⟨hok hwish, .refl s, hs, ?_⟩
      cases hentry : s.entry? m.container with
      | none =>
          rw [Store.snapshot?, hentry]
          exact ⟨.creating hwish attempts hnow,
            .of_unfinished StoreEvent.noConfusion rfl rfl⟩
      | some entry =>
          rw [hs.snapshot?_eq hentry, AdHocCall.onSnapshot, AdHocCall.settled_settleIn]
          exact turn_of_snapshot hwish hs hentry attempts hnow
  | creating hwish attempts hnow =>
      simp only [Session.step?, AdHocCall.onCreated, AdHocCall.settled_attempt, Option.some.injEq,
        Prod.mk.injEq] at hstep
      obtain ⟨rfl, rfl, rfl⟩ := hstep
      -- the next attempt is due, now that the container is there
      have hafter := s.precedes_create m.container
      exact ⟨hok hwish, hafter, hs.create m.container,
        .ready hwish attempts (Nat.le_trans hnow hafter.generation_le),
        .goesOn StoreEvent.noConfusion (fun _ => AdHocCall.gaveUp_of_result?_attempt)
          (s.declarations_create m.container)⟩
  | @appending wish hwish attempts now hnow generation hgeneration ds hcurrent fix minted
      hverdict =>
      by_cases heq : s.generation = generation
      · -- the append is accepted, and the verdict is on what is declared now
        have hentry := hcurrent heq.symm
        have hds : s.declarations m.container = ds := Store.declarations_of_present hentry
        simp only [Session.step?, hs.append_of_eq heq hentry, AdHocCall.onAppended,
          Session.settled, Option.some.injEq, Prod.mk.injEq] at hstep
        obtain ⟨rfl, rfl, rfl⟩ := hstep
        refine ⟨hok hwish, s.precedes_change _ _, hs.change _ _, .decided hwish (.inl ⟨fix, rfl⟩),
          .decides (.inr rfl) rfl ?_⟩
        rw [decide_of_ok hwish, hds, hverdict, Store.declarations_change]
        rfl
      · -- the append is refused, and the next attempt is due
        simp only [Session.step?, Store.append_of_ne heq, AdHocCall.onAppended,
          AdHocCall.settled_attempt, Option.some.injEq, Prod.mk.injEq] at hstep
        obtain ⟨rfl, rfl, rfl⟩ := hstep
        exact ⟨hok hwish, .refl s, hs, .ready hwish attempts hnow,
          .goesOn (fun hevent => Bool.noConfusion (StoreEvent.append.inj hevent))
            (fun _ => AdHocCall.gaveUp_of_result?_attempt) rfl⟩

end Migrator

end StructuredLog
