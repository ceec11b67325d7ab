import StructuredLog.Proofs.Migration.Wish
import StructuredLog.Proofs.Store.Transcript

/-! # Atomicity — a migration appends its method or nothing

    Nothing is assumed of the store here: it may fail, forget, and answer what
    it likes.  Whatever it answers, the transcript of a migration is its
    attempts one after another (`AdHocCall.Course`): all but the last call for
    another attempt, and the last one comes to the result.  An attempt makes at
    most one append, as its last request, on the snapshot that it has just
    read; and an append that is accepted ends the migration with its method.

    What can be said of every migration is then said by induction on its course
    (`AdHocCall.migrate_all_or_nothing`). -/

namespace StructuredLog

namespace AdHocCall

variable {options : MigrationOptions} {call : AdHocCall} {wish : MethodWish}
  {round log : List Exchange} {result : MigrationResult} {attempts : Nat}

/-! ## The course of a migration -/

/-- What an attempt asks before it appends to a container. -/
def lookingUp (call : AdHocCall) (container : String) (now : Nat) (snapshot : Snapshot)
    (span : Span) : List Exchange :=
  [.generation now, .snapshot container (.ok (some snapshot)), .relocate call (some span)]

/-- The exchanges of an attempt that asks for an append. -/
def appendRound (options : MigrationOptions) (call : AdHocCall) (now : Nat) (snapshot : Snapshot)
    (span : Span) (d : Declaration) (answer : Except StoreRefusal Nat) : List Exchange :=
  call.lookingUp options.containerName now snapshot span
    ++ [.append options.containerName snapshot.generation d answer]

/-- An attempt that calls for another one. -/
inductive RetryRound (options : MigrationOptions) (call : AdHocCall) : List Exchange → Prop where
  | created (now : Nat) :
      RetryRound options call [.generation now, .snapshot options.containerName (.ok none),
        .create options.containerName (.ok ())]
  | conflict (now : Nat) (snapshot : Snapshot) (span : Span) (d : Declaration)
      (expected actual : Nat) :
      RetryRound options call
        (appendRound options call now snapshot span d (.error (.conflict expected actual)))

/-- An attempt that ends the migration. -/
inductive FinalRound (options : MigrationOptions) (call : AdHocCall) :
    List Exchange → MigrationResult → Prop where
  /-- No append was asked for. -/
  | quiet {round : List Exchange} {result : MigrationResult}
      (hidle : round.all (·.isIdle options.containerName) = true)
      (hreused : ∀ fix, result = .ok fix → fix.isReused = true)
      (hlies : ∀ e, result = .error e → e.liesInCall = false) :
      FinalRound options call round result
  | refused (now : Nat) (snapshot : Snapshot) (span : Span) (d : Declaration)
      (refusal : StoreRefusal) :
      FinalRound options call
        (appendRound options call now snapshot span d (.error refusal)) (.error (.store refusal))
  | minted (now : Nat) (snapshot : Snapshot) (span : Span) (fix : MigratedCall) (generation : Nat)
      (hnew : fix.isReused = false) (hcontainer : fix.container = options.containerName) :
      FinalRound options call
        (appendRound options call now snapshot span fix.declaration (.ok generation)) (.ok fix)

/-- The transcripts of a migration that has so many attempts, with their results. -/
inductive Course (options : MigrationOptions) (call : AdHocCall) :
    Nat → List Exchange → MigrationResult → Prop where
  | exhausted : Course options call 0 []
      (.error (.retryBudgetExhausted options.containerName options.retryBudget))
  | ends {attempts : Nat} {round : List Exchange} {result : MigrationResult}
      (h : FinalRound options call round result) : Course options call (attempts + 1) round result
  | goesOn {attempts : Nat} {round log : List Exchange} {result : MigrationResult}
      (h : RetryRound options call round) (rest : Course options call attempts log result) :
      Course options call (attempts + 1) (round ++ log) result

theorem Course.of_failure {e : MigrationFailure}
    (hidle : round.all (·.isIdle options.containerName) = true) (hlies : e.liesInCall = false) :
    Course options call (attempts + 1) round (.error e) := by
  refine .ends (.quiet hidle (fun _ h => nomatch h) ?_)
  intro e' he'
  rw [← Except.error.inj he']
  exact hlies

theorem Course.of_reuse {fix : MigratedCall}
    (hidle : round.all (·.isIdle options.containerName) = true) (hreused : fix.isReused = true) :
    Course options call (attempts + 1) round (.ok fix) := by
  refine .ends (.quiet hidle ?_ (fun _ h => nomatch h))
  intro fix' hfix'
  rw [← Except.ok.inj hfix']
  exact hreused

/-- An attempt that found its container ends, or calls for another one. -/
theorem course_settleIn {next : Session MigrationResult}
    (hnext : ∀ {log result}, next.Held log result → Course options call attempts log result)
    (now : Nat) (snapshot : Snapshot)
    (h : (call.settleIn options wish next snapshot).Held log result) :
    Course options call (attempts + 1)
      (.generation now :: .snapshot options.containerName (.ok (some snapshot)) :: log) result := by
  rw [settleIn] at h
  cases hfound : snapshot.container.methodFor? wish.wanted options.firstEventId with
  | none =>
      rw [hfound] at h
      cases h with
      | done => exact .of_failure (by rfl) rfl
  | some resolution =>
      rw [hfound] at h
      cases h with
      | relocate span? h =>
          cases span? with
          | none =>
              cases h with
              | done => exact .of_failure (by rfl) rfl
          | some span =>
              by_cases hreused : resolution.isReused = true
              · simp only [if_pos hreused] at h
                cases hstored : snapshot.declaration?
                    ⟨resolution.name, wish.wanted.shape, resolution.eventId⟩ with
                | none =>
                    rw [hstored] at h
                    cases h with
                    | done => exact .of_failure (by rfl) rfl
                | some stored =>
                    rw [hstored] at h
                    cases h with
                    | done => exact .of_reuse (by rfl) rfl
              · simp only [if_neg hreused] at h
                cases h with
                | append answer h =>
                    match answer with
                    | .ok generation =>
                        cases h with
                        | done =>
                            exact .ends (.minted now snapshot span
                              (call.fix options wish.roles span _ false) generation rfl rfl)
                    | .error (.unavailable reason) =>
                        cases h with
                        | done => exact .ends (.refused now snapshot span _ _)
                    | .error (.conflict expected actual) =>
                        exact .goesOn (.conflict now snapshot span _ expected actual) (hnext h)

/-- **The transcript of a migration is its attempts one after another.** -/
theorem course_attempt {last : Nat}
    (h : (call.attempt options wish attempts last).Held log result) :
    Course options call attempts log result := by
  induction attempts generalizing last log result with
  | zero =>
      cases h with
      | done => exact .exhausted
  | succ attempts ih =>
      cases h with
      | generation now h =>
          by_cases hnow : now < last
          · simp only [if_pos hnow] at h
            cases h with
            | done => exact .of_failure (by rfl) rfl
          · simp only [if_neg hnow] at h
            cases h with
            | snapshot answer h =>
                match answer with
                | .error refusal =>
                    cases h with
                    | done => exact .of_failure (by rfl) rfl
                | .ok (some snapshot) => exact course_settleIn ih now snapshot h
                | .ok none =>
                    cases h with
                    | create created h =>
                        cases created with
                        | error refusal =>
                            cases h with
                            | done => exact .of_failure (by simp [Exchange.isIdle]) rfl
                        | ok _ => exact .goesOn (.created now) (ih h)

/-- A migration fails before any request, or takes its course. -/
theorem held_migrate {model : HostModel} (h : (call.migrate model options).Held log result) :
    (log = [] ∧ ∃ e, result = .error e ∧ e.liesInCall = true) ∨
      Course options call options.retryBudget log result := by
  rw [migrate] at h
  cases hwish : call.wish model options with
  | error e =>
      rw [hwish] at h
      cases h with
      | done => exact .inl ⟨rfl, e, rfl, liesInCall_of_wish_eq_error hwish⟩
  | ok wish =>
      rw [hwish] at h
      exact .inr (course_attempt h)

/-! ## What the attempts ask for -/

/-- Every append of the transcript comes at the end of an attempt, with the
    generation of the snapshot that the attempt has read. -/
def AppendsOnSnapshot (call : AdHocCall) (log : List Exchange) : Prop :=
  ∀ before name expected d answer after, log = before ++ .append name expected d answer :: after →
    ∃ earlier now snapshot span,
      before = earlier ++ call.lookingUp name now snapshot span ∧ snapshot.generation = expected

/-- An attempt asks for no append, or for one at its end. -/
inductive Round (options : MigrationOptions) (call : AdHocCall) : List Exchange → Prop where
  | idle {round : List Exchange} (h : round.all (·.isIdle options.containerName) = true) :
      Round options call round
  | appends (now : Nat) (snapshot : Snapshot) (span : Span) (d : Declaration)
      (answer : Except StoreRefusal Nat) :
      Round options call (appendRound options call now snapshot span d answer)

theorem RetryRound.isRound (h : RetryRound options call round) : Round options call round := by
  cases h with
  | created => exact .idle (by simp [Exchange.isIdle])
  | conflict => exact .appends ..

theorem FinalRound.isRound (h : FinalRound options call round result) :
    Round options call round := by
  cases h with
  | quiet hidle => exact .idle hidle
  | refused => exact .appends ..
  | minted => exact .appends ..

/-- A round asks for one append at most. -/
theorem Round.countP_le (h : Round options call round) : round.countP (·.isAppend) ≤ 1 := by
  cases h with
  | idle h =>
      have hnone : round.countP (·.isAppend) = 0 := by
        rw [List.countP_eq_zero]
        intro x hx
        rw [Exchange.isAppend_of_isIdle (List.all_eq_true.mp h x hx)]
        exact Bool.false_ne_true
      exact hnone ▸ Nat.zero_le 1
  | appends => exact Nat.le_refl 1

/-- An attempt appends only at its end, with the generation of the snapshot that it has read. -/
theorem Round.appendsOnSnapshot (h : Round options call round) : AppendsOnSnapshot call round := by
  intro before name expected d' answer' after hsplit
  cases h with
  | idle h =>
      have hmem : .append name expected d' answer' ∈ round := by
        rw [hsplit]
        exact List.mem_append_right _ List.mem_cons_self
      exact nomatch List.all_eq_true.mp h _ hmem
  | appends now snapshot span d answer =>
      -- only the last of the four exchanges is an append
      rcases before with _ | ⟨x₁, _ | ⟨x₂, _ | ⟨x₃, _ | ⟨x₄, before⟩⟩⟩⟩
      · exact nomatch hsplit
      · exact nomatch hsplit
      · exact nomatch hsplit
      · simp only [appendRound, lookingUp, List.cons_append, List.nil_append, List.cons.injEq,
          Exchange.append.injEq] at hsplit
        obtain ⟨rfl, rfl, rfl, ⟨rfl, hexpected, -⟩, -⟩ := hsplit
        exact ⟨[], now, snapshot, span, rfl, hexpected⟩
      · simp [appendRound, lookingUp] at hsplit

/-- Two logs in a row append on the snapshots they have seen if each of them does. -/
theorem AppendsOnSnapshot.append {log' : List Exchange} (h : AppendsOnSnapshot call log)
    (h' : AppendsOnSnapshot call log') : AppendsOnSnapshot call (log ++ log') := by
  intro before name expected d answer after hsplit
  rcases List.append_eq_append_iff.mp hsplit with ⟨middle, rfl, hlog'⟩ | ⟨middle, hlog, hafter⟩
  · obtain ⟨earlier, now, snapshot, span, rfl, hgeneration⟩ := h' _ _ _ _ _ _ hlog'
    exact ⟨log ++ earlier, now, snapshot, span, (List.append_assoc ..).symm, hgeneration⟩
  · cases middle with
    | nil =>
        -- no transcript starts with an append
        obtain ⟨earlier, _, _, _, hnil, -⟩ := h' [] _ _ _ _ _ hafter.symm
        exact absurd hnil.symm (by simp [lookingUp])
    | cons x middle =>
        obtain ⟨rfl, -⟩ := List.cons.inj hafter
        exact h _ _ _ _ _ _ hlog

theorem Course.countP_le (h : Course options call attempts log result) :
    log.countP (·.isAppend) ≤ attempts := by
  induction h with
  | exhausted => exact Nat.le_refl 0
  | ends h => exact Nat.le_trans h.isRound.countP_le (Nat.le_add_left 1 _)
  | goesOn h rest ih =>
      rw [List.countP_append, Nat.add_comm]
      exact Nat.add_le_add ih h.isRound.countP_le

theorem Course.appendsOnSnapshot (h : Course options call attempts log result) :
    AppendsOnSnapshot call log := by
  induction h with
  | exhausted =>
      have hround : Round options call [] := .idle rfl
      exact hround.appendsOnSnapshot
  | ends h => exact h.isRound.appendsOnSnapshot
  | goesOn h rest ih => exact h.isRound.appendsOnSnapshot.append ih

/-! ## What comes of an accepted append -/

variable {x : Exchange}

theorem spares_of_mem_lookingUp {container : String} {now : Nat} {snapshot : Snapshot} {span : Span}
    (hx : x ∈ call.lookingUp container now snapshot span) : x.spares container = true := by
  simp only [lookingUp, List.mem_cons, List.not_mem_nil, or_false] at hx
  obtain rfl | rfl | rfl := hx
  · rfl
  · rfl
  · rfl

theorem spares_of_mem_appendRound {now : Nat} {snapshot : Snapshot} {span : Span}
    {d : Declaration} {refusal : StoreRefusal}
    (hx : x ∈ appendRound options call now snapshot span d (.error refusal)) :
    x.spares options.containerName = true := by
  rcases List.mem_append.mp hx with hx | hx
  · exact spares_of_mem_lookingUp hx
  · obtain rfl := List.mem_singleton.mp hx
    rfl

/-- A round after which the call goes on appends nothing, and creates no container but the asked
    one. -/
theorem RetryRound.spares (h : RetryRound options call round) (hx : x ∈ round) :
    x.spares options.containerName = true := by
  cases h with
  | created now =>
      simp only [List.mem_cons, List.not_mem_nil, or_false] at hx
      obtain rfl | rfl | rfl := hx
      · rfl
      · rfl
      · exact beq_self_eq_true _
  | conflict => exact spares_of_mem_appendRound hx

/-- Where no method is minted, nothing is appended. -/
theorem FinalRound.spares (h : FinalRound options call round result)
    (hreused : ∀ fix, result = .ok fix → fix.isReused = true) (hx : x ∈ round) :
    x.spares options.containerName = true := by
  cases h with
  | quiet hidle => exact Exchange.spares_of_isIdle (List.all_eq_true.mp hidle x hx)
  | refused => exact spares_of_mem_appendRound hx
  | minted now snapshot span fix generation hnew =>
      exact absurd (hreused fix rfl) (by rw [hnew]; exact Bool.false_ne_true)

/-- A call that mints no method appends nothing, and creates no container but the asked one. -/
theorem Course.spares (h : Course options call attempts log result)
    (hreused : ∀ fix, result = .ok fix → fix.isReused = true) (hx : x ∈ log) :
    x.spares options.containerName = true := by
  induction h with
  | exhausted => exact absurd hx List.not_mem_nil
  | ends h => exact h.spares hreused hx
  | goesOn h rest ih =>
      rcases List.mem_append.mp hx with hx | hx
      · exact h.spares hx
      · exact ih hreused hx

/-- A minted method was appended by the last request, and nothing was before it. -/
theorem Course.minted (h : Course options call attempts log result) {fix : MigratedCall}
    (hfix : result = .ok fix) (hnew : fix.isReused = false) :
    ∃ before expected generation,
      log = before ++ [.append fix.container expected fix.declaration (.ok generation)] ∧
        ∀ x ∈ before, x.isAccepted = false := by
  induction h with
  | exhausted => exact nomatch hfix
  | ends h =>
      cases h with
      | quiet hidle hreused =>
          exact absurd (hreused fix hfix) (by rw [hnew]; exact Bool.false_ne_true)
      | refused => exact nomatch hfix
      | minted now snapshot span fix' generation hnew' hcontainer =>
          obtain rfl := Except.ok.inj hfix
          rw [hcontainer]
          exact ⟨_, _, _, rfl, fun x hx =>
            Exchange.isAccepted_of_spares (spares_of_mem_lookingUp hx)⟩
  | goesOn h rest ih =>
      obtain ⟨before, expected, generation, rfl, hbefore⟩ := ih hfix
      refine ⟨_ ++ before, expected, generation, (List.append_assoc ..).symm, ?_⟩
      intro x hx
      rcases List.mem_append.mp hx with hx | hx
      · exact Exchange.isAccepted_of_spares (h.spares hx)
      · exact hbefore x hx

/-- Nothing that lies in the call is found by an attempt. -/
theorem Course.liesInCall (h : Course options call attempts log result) {e : MigrationFailure}
    (he : result = .error e) : e.liesInCall = false := by
  induction h with
  | exhausted =>
      obtain rfl := Except.error.inj he
      rfl
  | ends h =>
      cases h with
      | quiet hidle hreused hlies => exact hlies e he
      | refused now snapshot span d refusal =>
          obtain rfl := Except.error.inj he
          rfl
      | minted => exact nomatch he
  | goesOn h rest ih => exact ih he

/-! ## The whole migration -/

/-- What a migration asks of its store goes together with its result. -/
structure AllOrNothing (options : MigrationOptions) (call : AdHocCall) (log : List Exchange)
    (result : MigrationResult) : Prop where
  /-- No more appends are asked for than there are attempts. -/
  countP_le : log.countP (·.isAppend) ≤ options.retryBudget
  appendsOnSnapshot : AppendsOnSnapshot call log
  /-- A minted method was appended, by the last request and no other. -/
  minted : ∀ fix, result = .ok fix → fix.isReused = false →
    ∃ before expected generation,
      log = before ++ [.append fix.container expected fix.declaration (.ok generation)] ∧
        ∀ x ∈ before, x.isAccepted = false
  /-- With a reused method, nothing was appended. -/
  reused : ∀ fix, result = .ok fix → fix.isReused = true → ∀ x ∈ log, x.isAccepted = false
  /-- With a failure, nothing was appended. -/
  failed : ∀ e, result = .error e → ∀ x ∈ log, x.isAccepted = false
  /-- With a failure that lies in the call, nothing was asked for. -/
  silent : ∀ e, result = .error e → e.liesInCall = true → log = []

/-- A course within the budget appends what its result says, and nothing besides. -/
theorem Course.allOrNothing (h : Course options call options.retryBudget log result) :
    AllOrNothing options call log result where
  countP_le := h.countP_le
  appendsOnSnapshot := h.appendsOnSnapshot
  minted fix hfix hnew := h.minted hfix hnew
  reused fix hfix hreused x hx := by
    refine Exchange.isAccepted_of_spares (h.spares ?_ hx)
    intro fix' hfix'
    rw [← Except.ok.inj (hfix.symm.trans hfix')]
    exact hreused
  failed e he x hx :=
    Exchange.isAccepted_of_spares (h.spares (fun _ hfix => nomatch he.symm.trans hfix) hx)
  silent e he hlies := absurd hlies (by rw [h.liesInCall he]; exact Bool.false_ne_true)

theorem allOrNothing_of_lies {e : MigrationFailure} : AllOrNothing options call [] (.error e) where
  countP_le := Nat.zero_le _
  appendsOnSnapshot := by
    have hround : Round options call [] := .idle rfl
    exact hround.appendsOnSnapshot
  minted _ hfix := nomatch hfix
  reused _ hfix := nomatch hfix
  failed _ _ _ hx := absurd hx List.not_mem_nil
  silent _ _ _ := rfl

end AdHocCall

/-- Nothing is new but the container of a name, which has no methods then. -/
structure Store.CreatedAtMost (container : String) (s after : Store) : Prop where
  /-- Every container that there was has the methods and declarations it had. -/
  entry?_eq : ∀ name entry, s.entry? name = some entry → after.entry? name = some entry
  /-- No other container is new. -/
  entry?_of_ne : ∀ name, name ≠ container → after.entry? name = s.entry? name
  declarations_eq : after.declarations = s.declarations
  eq_or_created : after = s ∨
    (s.entry? container = none ∧
      after.entry? container = some (.ofDeclarations container []) ∧
        after.generation = s.generation + 1)

namespace Store

theorem createdAtMost_self (container : String) (s : Store) : CreatedAtMost container s s where
  entry?_eq _ _ h := h
  entry?_of_ne _ _ := rfl
  declarations_eq := rfl
  eq_or_created := .inl rfl

/-- Creating a container changes nothing else, and nothing at all if there is one of the name. -/
theorem createdAtMost_create (container : String) (s : Store) :
    CreatedAtMost container s (s.create container) := by
  cases hentry : s.entry? container with
  | some entry =>
      rw [create_of_present hentry]
      exact createdAtMost_self container s
  | none =>
      refine ⟨?_, ?_, s.declarations_create container, .inr ⟨hentry, ?_, ?_⟩⟩
      · intro name entry hname
        rw [create_of_absent hentry, entry?_change, if_neg, hname]
        rintro rfl
        exact nomatch hentry.symm.trans hname
      · intro name hname
        rw [create_of_absent hentry, entry?_change, if_neg hname]
      · rw [create_of_absent hentry, entry?_change_self]
      · rw [create_of_absent hentry]
        rfl

end Store

namespace AdHocCall

/-- **A migration appends its method or nothing.**  Whatever the store answers, the
    exchanges go together with the result, and every host comes to such a
    result.  With a store that nobody else uses, a migration that fails has
    created the container at most. -/
theorem migrate_all_or_nothing (model : HostModel) (options : MigrationOptions)
    (call : AdHocCall) :
    (∀ log result, (call.migrate model options).Held log result →
      AllOrNothing options call log result) ∧
    (∀ (σ : Type) (host : Host σ) (state : σ),
      ∃ log, (call.migrate model options).Held log ((call.migrate model options).run host state).1) ∧
    ∀ (σ : Type) (frontEnd : FrontEnd σ) (s : Store) (state : σ) (e : MigrationFailure),
      ((call.migrate model options).run frontEnd.withStore (s, state)).1 = .error e →
        Store.CreatedAtMost options.containerName s
          ((call.migrate model options).run frontEnd.withStore (s, state)).2.1 := by
  refine ⟨?_, fun σ host state => Session.exists_held host _ state, ?_⟩
  · intro log result h
    rcases held_migrate h with ⟨rfl, e, rfl, -⟩ | hcourse
    · exact allOrNothing_of_lies
    · exact hcourse.allOrNothing
  · intro σ frontEnd s state e he
    obtain ⟨log, hheld, hafter⟩ := Session.exists_held_withStore frontEnd options.containerName
      (call.migrate model options) s state
    rw [he] at hheld
    have hspares : ∀ x ∈ log, x.spares options.containerName = true := by
      intro x hx
      rcases held_migrate hheld with ⟨rfl, -⟩ | hcourse
      · exact absurd hx List.not_mem_nil
      · exact hcourse.spares (fun _ h => nomatch h) hx
    rcases hafter hspares with hafter | hafter
    · rw [hafter]
      exact Store.createdAtMost_self options.containerName s
    · rw [hafter]
      exact Store.createdAtMost_create options.containerName s

/-- A call without template arguments. -/
def plainCall : AdHocCall where
  method := "LogInformation"
  receiver := { text := "_logger", type? := some "ILogger" }
  arguments := [.ofText "Hello"]

/-- A front end that finds every call where it was. -/
def steadyFrontEnd : FrontEnd Unit where
  relocate call _ := (some call.span, ())
  isCancelled _ := (false, ())

/-- With two attempts the call gets its method in a new container; with one attempt it
    only gets as far as the container. -/
theorem migrate_all_or_nothing_plainCall :
    let twice := plainCall.migrate (.ofTable .conventional) { retryBudget := 2 }
    let once := plainCall.migrate (.ofTable .conventional) { retryBudget := 1 }
    ((twice.run steadyFrontEnd.withStore (.empty, ())).1.map MigratedCall.isReused).toOption
        = some false ∧
      (∃ log, twice.Held log (twice.run steadyFrontEnd.withStore (.empty, ())).1 ∧
        AllOrNothing { retryBudget := 2 } plainCall log
          (twice.run steadyFrontEnd.withStore (.empty, ())).1) ∧
      (once.run steadyFrontEnd.withStore (.empty, ())).1
        = .error (.retryBudgetExhausted "Log" 1) ∧
      (once.run steadyFrontEnd.withStore (.empty, ())).2.1.names = ["Log"] ∧
      Store.CreatedAtMost "Log" .empty (once.run steadyFrontEnd.withStore (.empty, ())).2.1 := by
  intro twice once
  obtain ⟨hheld, hhost, -⟩ :=
    migrate_all_or_nothing (.ofTable .conventional) { retryBudget := 2 } plainCall
  obtain ⟨-, -, hfailed⟩ :=
    migrate_all_or_nothing (.ofTable .conventional) { retryBudget := 1 } plainCall
  obtain ⟨log, hlog⟩ := hhost _ steadyFrontEnd.withStore (.empty, ())
  have hexhausted : (once.run steadyFrontEnd.withStore (.empty, ())).1
      = .error (.retryBudgetExhausted "Log" 1) := by rfl
  exact ⟨by decide +kernel, ⟨log, hlog, hheld log _ hlog⟩, hexhausted, by decide +kernel,
    hfailed _ steadyFrontEnd .empty () _ hexhausted⟩

end AdHocCall

end StructuredLog
