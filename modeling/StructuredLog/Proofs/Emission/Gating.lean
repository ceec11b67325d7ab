import StructuredLog.Proofs.Emission.Course

/-! # Gating — what comes of a call that is refused, and of one that is not

    Both kinds of call have one gate.  A call is refused if its level is `off`,
    or if it is checked and the sink does not want the level.  Behind the gate a
    call has a payload, or a reason why there is none, and hands over one record
    or none (`passesGate_emission`).

    A cell is filled by the first call that is not refused, and never again, so
    over any number of calls its formatter is built at most once
    (`fillsOnce_logAll`). -/

namespace StructuredLog

variable {σ : Type}

/-! ## What is seen of acts -/

namespace Act

/-- The level that the sink is asked for. -/
def level? : Act → Option Level
  | .asked level => some level
  | _ => none

/-- The record that the sink is handed. -/
def record? : Act → Option Record
  | .logged record => some record
  | _ => none

/-- Whether the formatter of a cell is built. -/
def fillsCell : Act → Bool
  | .built .formatter => true
  | _ => false

end Act

/-- The levels that a sink is asked for. -/
def askedLevels (acts : List Act) : List Level :=
  acts.filterMap Act.level?

/-- The records that a sink is handed. -/
def loggedRecords (acts : List Act) : List Record :=
  acts.filterMap Act.record?

/-! ## The gate -/

/-- A call that is not to be logged. -/
def CallSite.IsRefused (sink : Sink σ) (site : CallSite) (state : σ) : Prop :=
  site.level = .off ∨
    (site.skipsEnabledCheck = false ∧ (sink.isEnabled site.level state).1 = false)

/-- What a call does whose payload is built as given, if the call is not refused. -/
structure PassesGate (site : CallSite) (isRefused : Prop) (payload : Except PayloadError Record)
    (build : Build) (result : Except PayloadError Bool) (acts : List Act) : Prop where
  false_iff : result = .ok false ↔ isRefused
  /-- Nothing is built for a refused call, and nothing logged. -/
  silent : isRefused → .built build ∉ acts ∧ loggedRecords acts = []
  true_iff : result = .ok true ↔ ∃ record, payload = .ok record ∧ loggedRecords acts = [record]
  logged : ∀ record ∈ loggedRecords acts, payload = .ok record
  error_iff : ∀ e, result = .error e ↔ ¬ isRefused ∧ payload = .error e
  failed : ∀ e, result = .error e → loggedRecords acts = []
  asked_once : (askedLevels acts).length ≤ 1
  not_asked : site.level = .off ∨ site.skipsEnabledCheck = true → askedLevels acts = []

/-- What comes of the builder of a field list. -/
inductive FieldsPayload (site : CallSite) : Except PayloadError FieldList →
    Except PayloadError Record → Prop where
  | failed (e) : FieldsPayload site (.error e) (.error e)
  | listed (list : FieldList) : FieldsPayload site (.ok list)
      (.ok ⟨site.level, site.event, .fields list, site.exception?, list.message⟩)

/-- What comes of arguments for the formatter of a cell. -/
inductive ArgumentsPayload (site : CallSite) (cell : LazyFormatter) (values : List Value) :
    Except PayloadError Record → Prop where
  | noFormatter {e} (hcell : cell.formatter = .error e) :
      ArgumentsPayload site cell values (.error e)
  | wrongCount {formatter} (hcell : cell.formatter = .ok formatter)
      (hlength : values.length ≠ formatter.arity) :
      ArgumentsPayload site cell values
        (.error (.valueCountMismatch formatter.arity values.length))
  | formatted {formatter message} (hcell : cell.formatter = .ok formatter)
      (hlength : values.length = formatter.arity)
      (hformat : formatter.format values = .ok message) :
      ArgumentsPayload site cell values
        (.ok ⟨site.level, site.event, .arguments values, site.exception?, message⟩)

variable {sink : Sink σ} {site : CallSite} {state : σ} {enabled : Level → Bool} {built : Bool}
  {build : Build} {payload : Except PayloadError Record}

theorem isLogged_enables_iff :
    site.isLogged (sink.enables state) = true ↔ ¬ site.IsRefused sink state := by
  rw [CallSite.isLogged, Sink.enables, Bool.and_eq_true, decide_eq_true_iff, Bool.or_eq_true,
    CallSite.IsRefused, not_or, not_and, Bool.not_eq_false]
  cases site.skipsEnabledCheck with
  | true => simp
  | false => simp

theorem asks_eq_false_iff :
    site.asks = false ↔ site.level = .off ∨ site.skipsEnabledCheck = true := by
  rw [CallSite.asks, Bool.and_eq_false_iff, decide_eq_false_iff_not, Classical.not_not,
    Bool.not_eq_false']

/-! ## Acts of an emission -/

variable {e : Emission}

theorem askedLevels_acts :
    askedLevels (e.acts site build) = if e.asked then [site.level] else [] := by
  obtain ⟨asked, built, record?, result⟩ := e
  cases asked <;> cases built <;> cases record? <;> rfl

theorem loggedRecords_acts : loggedRecords (e.acts site build) = e.record?.toList := by
  obtain ⟨asked, built, record?, result⟩ := e
  cases asked <;> cases built <;> cases record? <;> rfl

theorem built_mem_acts_iff : .built build ∈ e.acts site build ↔ e.built = true := by
  have hasked : .built build ∉ if e.asked then [Act.asked site.level] else [] := by
    split <;> simp
  have hlogged : .built build ∉ (e.record?.map Act.logged).toList := by
    simp
  rw [Emission.acts, List.mem_append, List.mem_append, or_iff_right hasked, or_iff_left hlogged]
  cases e.built with
  | true => exact iff_of_true (List.mem_singleton_self _) rfl
  | false => exact iff_of_false List.not_mem_nil Bool.false_ne_true

/-- The sink is asked no more than once, and not if its answer is of no matter. -/
theorem askedLevels_acts_of_asks (build : Build) (hasked : e.asked = site.asks) :
    (askedLevels (e.acts site build)).length ≤ 1 ∧
      (site.level = .off ∨ site.skipsEnabledCheck = true →
        askedLevels (e.acts site build) = []) := by
  rw [askedLevels_acts, hasked, ← asks_eq_false_iff]
  cases site.asks with
  | true => exact ⟨Nat.le_refl 1, nofun⟩
  | false => exact ⟨Nat.zero_le 1, fun _ => rfl⟩

/-! ## At the gate and behind it -/

/-- Nothing comes of a refused call. -/
theorem passesGate_silent {isRefused : Prop} (hrefused : isRefused) :
    PassesGate site isRefused payload build site.silent.result (site.silent.acts site build) := by
  have hrecords : loggedRecords (site.silent.acts site build) = [] := loggedRecords_acts
  have hasks := askedLevels_acts_of_asks (e := site.silent) build rfl
  constructor
  case false_iff => exact iff_of_true rfl hrefused
  case silent =>
    exact fun _ => ⟨fun h => Bool.false_ne_true (built_mem_acts_iff.mp h), hrecords⟩
  case true_iff =>
    refine iff_of_false nofun ?_
    rw [hrecords]
    exact fun ⟨_, _, h⟩ => nomatch h
  case logged =>
    rw [hrecords]
    exact nofun
  case error_iff => exact fun _ => iff_of_false nofun fun h => h.1 hrefused
  case failed => exact fun _ _ => hrecords
  case asked_once => exact hasks.1
  case not_asked => exact hasks.2

theorem result_handOver_ne_false (payload : Except PayloadError Record) :
    (site.handOver built payload).result ≠ .ok false := by
  cases payload with
  | error e => exact nofun
  | ok record => exact nofun

/-- A call that is not refused hands its payload over, or says why it has none. -/
theorem passesGate_handOver {isRefused : Prop} (hpasses : ¬ isRefused) :
    PassesGate site isRefused payload build (site.handOver built payload).result
      ((site.handOver built payload).acts site build) := by
  have hrecords : loggedRecords ((site.handOver built payload).acts site build)
      = payload.toOption.toList := loggedRecords_acts
  have hasks := askedLevels_acts_of_asks (e := site.handOver built payload) build rfl
  constructor
  case false_iff => exact iff_of_false (result_handOver_ne_false payload) hpasses
  case silent => exact fun h => absurd h hpasses
  case true_iff =>
    rw [hrecords]
    cases payload with
    | error e => exact iff_of_false nofun fun ⟨_, h, _⟩ => nomatch h
    | ok record => exact iff_of_true rfl ⟨record, rfl, rfl⟩
  case logged =>
    rw [hrecords]
    cases payload with
    | error e => exact nofun
    | ok record => exact fun _ h => congrArg _ (List.mem_singleton.mp h).symm
  case error_iff =>
    intro e
    rw [and_iff_right hpasses]
    cases payload with
    | error e' => exact ⟨fun h => congrArg Except.error (Except.error.inj h),
        fun h => congrArg Except.error (Except.error.inj h)⟩
    | ok record => exact iff_of_false nofun nofun
  case failed =>
    intro e he
    rw [hrecords]
    cases payload with
    | error e' => rfl
    | ok record => exact nomatch he
  case asked_once => exact hasks.1
  case not_asked => exact hasks.2

/-- **A call is refused in silence; otherwise it hands over its payload or says why not.** -/
theorem passesGate_emission :
    let e := if site.isLogged (sink.enables state) then site.handOver built payload else site.silent
    PassesGate site (site.IsRefused sink state) payload build e.result (e.acts site build) := by
  by_cases hlogged : site.isLogged (sink.enables state) = true
  · rw [if_pos hlogged]
    exact passesGate_handOver (isLogged_enables_iff.mp hlogged)
  · rw [if_neg hlogged]
    exact passesGate_silent (Classical.not_not.mp (mt isLogged_enables_iff.mpr hlogged))

/-! ## The payloads -/

theorem fieldsPayload (build : Except PayloadError FieldList) :
    FieldsPayload site build (build.map site.fieldsRecord) := by
  cases build with
  | error e => exact .failed e
  | ok list => exact .listed list

theorem argumentsPayload (cell : LazyFormatter) (values : List Value) :
    ArgumentsPayload site cell values (cell.formatter.bind (site.argumentsRecord · values)) := by
  cases hcell : cell.formatter with
  | error e => exact .noFormatter hcell
  | ok formatter =>
    show ArgumentsPayload site cell values (site.argumentsRecord formatter values)
    rw [CallSite.argumentsRecord, Formatter.format]
    split
    · next hlength => exact .formatted hcell hlength (if_pos hlength)
    · next hlength => exact .wrongCount hcell hlength

/-! ## Many calls on one cell -/

/-- A call with arguments, and the sink that it is for. -/
structure ArgumentsCall (σ : Type) where
  sink : Sink σ
  site : CallSite
  values : List Value

/-- What a call was answered, and what it did. -/
structure Outcome where
  result : Except PayloadError Bool
  acts : List Act

/-- The outcome of a call, and the scene after it. -/
def ArgumentsCall.step (call : ArgumentsCall σ) (scene : Scene σ) : Outcome × Scene σ :=
  let after := (call.site.logArguments call.sink call.values).run { scene with acts := [] }
  (⟨after.1, after.2.acts⟩, after.2)

/-- The outcomes of calls, one after another, on one cell. -/
def logAll : List (ArgumentsCall σ) → Scene σ → List Outcome
  | [], _ => []
  | call :: calls, scene => (call.step scene).1 :: logAll calls (call.step scene).2

/-- How often a formatter is built. -/
def fillings (outcomes : List Outcome) : Nat :=
  (outcomes.flatMap Outcome.acts).countP Act.fillsCell

/-- A cell is filled at most once, by the first call that is not refused. -/
structure FillsOnce (cell : LazyFormatter) (outcomes : List Outcome) : Prop where
  fillings_le : fillings outcomes ≤ 1
  filled_iff : ∀ (i : Nat) (outcome : Outcome), outcomes[i]? = some outcome →
    (.built .formatter ∈ outcome.acts ↔ cell.isInitialized = false ∧ outcome.result ≠ .ok false ∧
      ∀ j < i, ∀ earlier : Outcome, outcomes[j]? = some earlier → earlier.result = .ok false)

variable {cell : LazyFormatter} {outcome : Outcome} {outcomes : List Outcome}
  {call : ArgumentsCall σ} {scene : Scene σ}

theorem fillings_cons :
    fillings (outcome :: outcomes) = outcome.acts.countP Act.fillsCell + fillings outcomes := by
  rw [fillings, List.flatMap_cons, List.countP_append]
  rfl

theorem countP_fillsCell_eq_zero {acts : List Act} (h : .built .formatter ∉ acts) :
    acts.countP Act.fillsCell = 0 := by
  rw [List.countP_eq_zero]
  intro act hact hfills
  cases act with
  | built build =>
    cases build with
    | formatter => exact h hact
    | fields => exact nomatch hfills
  | asked | logged => exact nomatch hfills

theorem countP_fillsCell_acts (e : Emission) :
    (e.acts site .formatter).countP Act.fillsCell = if e.built then 1 else 0 := by
  obtain ⟨asked, built, record?, result⟩ := e
  cases asked <;> cases built <;> cases record? <;> rfl

theorem emitArguments_of_false {values : List Value}
    (hresult : (site.emitArguments enabled cell values).1.result = .ok false) :
    site.emitArguments enabled cell values = (site.silent, cell) := by
  rw [CallSite.emitArguments] at hresult ⊢
  split at hresult
  · exact absurd hresult (result_handOver_ne_false _)
  · next hlogged => exact if_neg hlogged

theorem emitArguments_of_ne_false {values : List Value}
    (hresult : (site.emitArguments enabled cell values).1.result ≠ .ok false) :
    ∃ payload, site.emitArguments enabled cell values
      = (site.handOver (!cell.isInitialized) payload, cell.initialized) := by
  rw [CallSite.emitArguments] at hresult ⊢
  split at hresult
  · next hlogged => exact ⟨_, if_pos hlogged⟩
  · exact absurd rfl hresult

/-- A step goes as the emission tells. -/
theorem step_eq (call : ArgumentsCall σ) (scene : Scene σ) :
    let e := call.site.emitArguments (call.sink.enables scene.sink) scene.cell call.values
    (call.step scene).1 = ⟨e.1.result, e.1.acts call.site .formatter⟩ ∧
      (call.step scene).2.cell = e.2 := by
  obtain ⟨hresult, hcell, hacts, -⟩ :=
    run_logArguments call.sink call.site { scene with acts := [] } call.values
  refine ⟨?_, hcell⟩
  show Outcome.mk _ _ = _
  rw [hresult, hacts]
  rfl

/-- A refused call leaves the cell as it is. -/
theorem step_of_false (hresult : (call.step scene).1.result = .ok false) :
    .built .formatter ∉ (call.step scene).1.acts ∧ (call.step scene).2.cell = scene.cell := by
  obtain ⟨houtcome, hcell⟩ := step_eq call scene
  rw [houtcome] at hresult ⊢
  rw [hcell, emitArguments_of_false hresult, built_mem_acts_iff]
  exact ⟨Bool.false_ne_true, rfl⟩

/-- A call that is not refused fills the cell if that is not filled yet. -/
theorem step_of_ne_false (hresult : (call.step scene).1.result ≠ .ok false) :
    (call.step scene).1.acts.countP Act.fillsCell = (if scene.cell.isInitialized then 0 else 1) ∧
      (call.step scene).2.cell = scene.cell.initialized := by
  obtain ⟨houtcome, hcell⟩ := step_eq call scene
  rw [houtcome] at hresult ⊢
  obtain ⟨payload, he⟩ := emitArguments_of_ne_false hresult
  rw [hcell, he, countP_fillsCell_acts]
  refine ⟨?_, rfl⟩
  show (if !scene.cell.isInitialized then 1 else 0) = _
  cases scene.cell.isInitialized <;> rfl

namespace FillsOnce

theorem nil : FillsOnce cell [] :=
  ⟨Nat.zero_le 1, fun _ _ h => nomatch h⟩

/-- A refused call before the others leaves the cell to them. -/
theorem cons_refused (hrest : FillsOnce cell outcomes) (hresult : outcome.result = .ok false)
    (hacts : .built .formatter ∉ outcome.acts) : FillsOnce cell (outcome :: outcomes) where
  fillings_le := by
    rw [fillings_cons, countP_fillsCell_eq_zero hacts, Nat.zero_add]
    exact hrest.fillings_le
  filled_iff := by
    intro i outcome' hi
    cases i with
    | zero =>
      obtain rfl : outcome = outcome' := Option.some.inj hi
      exact iff_of_false hacts fun h => h.2.1 hresult
    | succ i =>
      rw [hrest.filled_iff i outcome' hi, and_congr_right_iff]
      refine fun _ => and_congr_right fun _ => ⟨fun h j hj earlier hearlier => ?_,
        fun h j hj => h (j + 1) (Nat.succ_lt_succ hj)⟩
      cases j with
      | zero => exact Option.some.inj hearlier ▸ hresult
      | succ j => exact h j (Nat.lt_of_succ_lt_succ hj) earlier hearlier

/-- Nothing fills a cell that is filled. -/
theorem fillings_eq_zero (hcell : cell.isInitialized = true) (h : FillsOnce cell outcomes) :
    fillings outcomes = 0 := by
  refine countP_fillsCell_eq_zero fun hmem => ?_
  obtain ⟨outcome, houtcome, hacts⟩ := List.mem_flatMap.mp hmem
  obtain ⟨i, hi⟩ := List.mem_iff_getElem?.mp houtcome
  exact Bool.false_ne_true (((h.filled_iff i outcome hi).mp hacts).1.symm.trans hcell)

/-- A call that is not refused fills the cell, so that none of the others does. -/
theorem cons_passed (hrest : FillsOnce cell.initialized outcomes)
    (hresult : outcome.result ≠ .ok false)
    (hacts : outcome.acts.countP Act.fillsCell = if cell.isInitialized then 0 else 1) :
    FillsOnce cell (outcome :: outcomes) where
  fillings_le := by
    rw [fillings_cons, hacts, hrest.fillings_eq_zero rfl]
    split <;> decide
  filled_iff := by
    intro i outcome' hi
    cases i with
    | zero =>
      obtain rfl : outcome = outcome' := Option.some.inj hi
      rw [and_iff_left ⟨hresult, fun _ h => absurd h (Nat.not_lt_zero _)⟩]
      constructor
      · intro hmem
        have hfills : (Act.built .formatter).fillsCell = true := rfl
        have hpos := List.countP_pos_iff.mpr ⟨_, hmem, hfills⟩
        rw [hacts] at hpos
        exact Bool.eq_false_iff.mpr fun hcell => by simp [hcell] at hpos
      · intro hcell
        refine Classical.not_not.mp fun hmem => ?_
        rw [countP_fillsCell_eq_zero hmem, hcell] at hacts
        exact nomatch hacts
    | succ i =>
      refine iff_of_false (fun hmem => ?_) fun h => hresult (h.2.2 0 (Nat.succ_pos i) outcome rfl)
      exact Bool.false_ne_true ((hrest.filled_iff i outcome' hi).mp hmem).1.symm

end FillsOnce

/-- **Over any calls, the formatter of a cell is built once at most.** -/
theorem fillsOnce_logAll (calls : List (ArgumentsCall σ)) (scene : Scene σ) :
    FillsOnce scene.cell (logAll calls scene) := by
  induction calls generalizing scene with
  | nil => exact .nil
  | cons call calls ih =>
    have hrest := ih (call.step scene).2
    -- a refused call leaves the cell as it is to the others, and any other leaves it filled
    by_cases hresult : (call.step scene).1.result = .ok false
    · obtain ⟨hacts, hcell⟩ := step_of_false hresult
      rw [hcell] at hrest
      exact hrest.cons_refused hresult hacts
    · obtain ⟨hacts, hcell⟩ := step_of_ne_false hresult
      rw [hcell] at hrest
      exact hrest.cons_passed hresult hacts

/-! ## Both kinds of call -/

/-- **A call is gated.**  Run step by step, a call with fields and one with
    arguments have the results and do the acts of their emissions, and leave the
    sink as these acts do, each record logged by it; they are silent exactly if
    they are refused, hand over one record exactly if they have one, and fail
    exactly if they are let through without; they ask the sink once at most; and
    calls on one cell build its formatter once at most. -/
theorem emission_is_gated (sink : Sink σ) (site : CallSite) (scene : Scene σ) :
    (∀ build,
      let e := site.emitFields (sink.enables scene.sink) build
      let after := (site.logFields sink build).run scene
      after.1 = e.result ∧ after.2.acts = scene.acts ++ e.acts site .fields ∧
        after.2.sink = sink.after scene.sink (e.acts site .fields) ∧
        after.2.cell = scene.cell ∧
        ∃ payload, FieldsPayload site build payload ∧
          PassesGate site (site.IsRefused sink scene.sink) payload .fields e.result
            (e.acts site .fields)) ∧
    (∀ values,
      let e := site.emitArguments (sink.enables scene.sink) scene.cell values
      let after := (site.logArguments sink values).run scene
      after.1 = e.1.result ∧ after.2.acts = scene.acts ++ e.1.acts site .formatter ∧
        after.2.sink = sink.after scene.sink (e.1.acts site .formatter) ∧
        after.2.cell = e.2 ∧
        (e.1.result = .ok false → e.2 = scene.cell) ∧
        (e.1.result ≠ .ok false → e.2 = scene.cell.initialized) ∧
        ∃ payload, ArgumentsPayload site scene.cell values payload ∧
          PassesGate site (site.IsRefused sink scene.sink) payload .formatter e.1.result
            (e.1.acts site .formatter)) ∧
    ∀ calls, FillsOnce scene.cell (logAll calls scene) := by
  refine ⟨fun build => ?_, fun values => ?_, fun calls => fillsOnce_logAll calls scene⟩
  · obtain ⟨hresult, hcell, hacts, hsink⟩ := run_logFields sink site scene build
    exact ⟨hresult, hacts, hsink, hcell, _, fieldsPayload build, passesGate_emission⟩
  · obtain ⟨hresult, hcell, hacts, hsink⟩ := run_logArguments sink site scene values
    have hgate : PassesGate site (site.IsRefused sink scene.sink)
        (scene.cell.formatter.bind (site.argumentsRecord · values)) .formatter
        (site.emitArguments (sink.enables scene.sink) scene.cell values).1.result
        ((site.emitArguments (sink.enables scene.sink) scene.cell values).1.acts site
          .formatter) := by
      rw [CallSite.emitArguments, apply_ite Prod.fst]
      exact passesGate_emission
    refine ⟨hresult, hacts, hsink, hcell, fun h => ?_, fun h => ?_, _, argumentsPayload _ _, hgate⟩
    · exact congrArg Prod.snd (emitArguments_of_false h)
    · obtain ⟨payload, he⟩ := emitArguments_of_ne_false h
      exact congrArg Prod.snd he

end StructuredLog
