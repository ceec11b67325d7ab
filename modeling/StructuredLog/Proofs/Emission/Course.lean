import StructuredLog.Emission.Basic

/-! # Courses — what a call does to a sink, one act after another

    An emission sums up a call in one value.  Here the same call is a course of
    acts: it asks the sink, builds its payload, and hands a record over.  The
    sink has a state of its own, which any of its answers may depend on, and the
    cell of the call site is filled on the way.

    A course has the result of the emission, and its acts are those that the
    emission tells, in this order.  Nothing but the acts touches the sink: it ends
    as they leave it, one after another (`run_logFields`, `run_logArguments`). -/

namespace StructuredLog

variable {σ : Type}

/-- What takes records, with a state that each answer may depend on and change. -/
structure Sink (σ : Type) where
  isEnabled : Level → σ → Bool × σ
  log : Record → σ → σ

/-- What a call builds on its way to a record. -/
inductive Build where
  /-- A field list, with its builder. -/
  | fields
  /-- The formatter of a cell. -/
  | formatter

/-- What a call does. -/
inductive Act where
  /-- Ask the sink whether a level is enabled. -/
  | asked (level : Level)
  | built (build : Build)
  /-- Hand the sink a record. -/
  | logged (record : Record)

/-- What a call works on, and what was done so far. -/
structure Scene (σ : Type) where
  sink : σ
  /-- The cell of the call site. -/
  cell : LazyFormatter
  acts : List Act

/-- A course of acts on a scene, with a result. -/
abbrev Course (σ α : Type) : Type := StateM (Scene σ) α

/-! ## Acts -/

namespace Sink

/-- Ask whether a level is enabled. -/
def ask (sink : Sink σ) (level : Level) : Course σ Bool := fun scene =>
  let (answer, state) := sink.isEnabled level scene.sink
  (answer, { scene with sink := state, acts := scene.acts ++ [.asked level] })

/-- Hand over a record. -/
def take (sink : Sink σ) (record : Record) : Course σ Unit := fun scene =>
  ((), { scene with sink := sink.log record scene.sink, acts := scene.acts ++ [.logged record] })

end Sink

/-- Hand over the record of a payload, or say why there is none. -/
def Sink.deliver (sink : Sink σ) (payload : Except PayloadError Record) :
    Course σ (Except PayloadError Bool) := do
  match payload with
  | .error e => return .error e
  | .ok record =>
    sink.take record
    return .ok true

/-- Run the builder of a field list, which ends as given. -/
def runBuilder (build : Except PayloadError FieldList) : Course σ (Except PayloadError FieldList) :=
  fun scene => (build, { scene with acts := scene.acts ++ [.built .fields] })

/-- The formatter of the cell, which is built if it was not before. -/
def openCell : Course σ (Except PayloadError Formatter) := fun scene =>
  if scene.cell.isInitialized then (scene.cell.formatter, scene)
  else
    (scene.cell.formatter,
      { scene with cell := scene.cell.initialized, acts := scene.acts ++ [.built .formatter] })

/-- The sink is given the record of a payload, and nothing of a payload that fails. -/
theorem Sink.run_deliver (sink : Sink σ) (payload : Except PayloadError Record)
    (scene : Scene σ) :
    (sink.deliver payload).run scene
      = (payload.map fun _ => true,
          { scene with
            sink := payload.toOption.elim scene.sink (sink.log · scene.sink)
            acts := scene.acts ++ (payload.toOption.map Act.logged).toList }) := by
  cases payload with
  | error e => exact congrArg (fun acts => (_, { scene with acts })) (List.append_nil _).symm
  | ok record => rfl

variable {α : Type}

theorem run_runBuilder_bind (build : Except PayloadError FieldList)
    (next : Except PayloadError FieldList → Course σ α) (scene : Scene σ) :
    (runBuilder build >>= next).run scene
      = (next build).run { scene with acts := scene.acts ++ [.built .fields] } :=
  rfl

/-- The cell is filled once it was opened, whether it was before or not. -/
theorem run_openCell_bind (next : Except PayloadError Formatter → Course σ α) (scene : Scene σ) :
    (openCell >>= next).run scene
      = (next scene.cell.formatter).run
          { scene with
            cell := scene.cell.initialized
            acts :=
              scene.acts ++ if !scene.cell.isInitialized then [.built .formatter] else [] } := by
  obtain ⟨sink, ⟨template, arity, isInitialized⟩, acts⟩ := scene
  cases isInitialized with
  | false => rfl
  | true =>
      show (next _).run ⟨sink, _, acts⟩ = (next _).run ⟨sink, _, acts ++ []⟩
      rw [List.append_nil]
      rfl

/-! ## Calls -/

namespace CallSite

/-- Whether the call is to be logged: the sink is asked only if that matters. -/
def findEnabled (sink : Sink σ) (site : CallSite) : Course σ Bool := do
  if site.level = .off then
    return false
  if site.skipsEnabledCheck then
    return true
  sink.ask site.level

/-- Go on only if the call is to be logged. -/
def gate (sink : Sink σ) (site : CallSite) (next : Course σ (Except PayloadError Bool)) :
    Course σ (Except PayloadError Bool) := do
  if ← site.findEnabled sink then
    next
  else
    return .ok false

/-- Log a field list, which is built only when the call is to be logged. -/
def logFields (sink : Sink σ) (site : CallSite) (build : Except PayloadError FieldList) :
    Course σ (Except PayloadError Bool) :=
  site.gate sink do
    let list ← runBuilder build
    sink.deliver (list.map site.fieldsRecord)

/-- The record of arguments for a formatter, once their number was checked.  Should the
    formatter refuse them after all, the message would be empty. -/
def checkedRecord (site : CallSite) (formatter : Formatter) (values : List Value) :
    Except PayloadError Record :=
  if values.length = formatter.arity then
    .ok (site.record (.arguments values) ((formatter.format values).toOption.getD (.ok "")))
  else .error (.valueCountMismatch formatter.arity values.length)

/-- Log arguments by position, with the formatter of the cell. -/
def logArguments (sink : Sink σ) (site : CallSite) (values : List Value) :
    Course σ (Except PayloadError Bool) :=
  site.gate sink do
    let formatter ← openCell
    sink.deliver (formatter.bind (site.checkedRecord · values))

end CallSite

/-! ## Courses and emissions -/

/-- The levels that the sink enables in a state. -/
def Sink.enables (sink : Sink σ) (state : σ) (level : Level) : Bool :=
  (sink.isEnabled level state).1

/-- The scene when it is known whether the call is to be logged. -/
def CallSite.sceneAsked (sink : Sink σ) (site : CallSite) (scene : Scene σ) : Scene σ :=
  if site.asks then ((sink.ask site.level).run scene).2 else scene

/-- What an act does to the state of the sink.  Nothing is built there. -/
def Sink.perform (sink : Sink σ) (state : σ) : Act → σ
  | .asked level => (sink.isEnabled level state).2
  | .built _ => state
  | .logged record => sink.log record state

/-- The state of the sink after acts, one after another. -/
def Sink.after (sink : Sink σ) (state : σ) (acts : List Act) : σ :=
  acts.foldl sink.perform state

/-- The acts that an emission tells of, where `build` is what it builds. -/
def Emission.acts (e : Emission) (site : CallSite) (build : Build) : List Act :=
  (if e.asked then [.asked site.level] else []) ++
    ((if e.built then [.built build] else []) ++ (e.record?.map Act.logged).toList)

variable {sink : Sink σ} {site : CallSite} {scene : Scene σ}

/-- The sink is asked if its answer matters, and only then. -/
theorem run_findEnabled :
    (site.findEnabled sink).run scene
      = (site.isLogged (sink.enables scene.sink), site.sceneAsked sink scene) := by
  rw [CallSite.findEnabled, CallSite.isLogged, CallSite.sceneAsked, CallSite.asks]
  by_cases hoff : site.level = .off
  · rw [if_pos hoff, decide_eq_false fun hne => hne hoff]
    rfl
  · rw [if_neg hoff, decide_eq_true hoff]
    cases site.skipsEnabledCheck with
    | true => rfl
    | false => rfl

/-- A call that is not to be logged ends at the gate. -/
theorem run_gate (next : Course σ (Except PayloadError Bool)) :
    (site.gate sink next).run scene =
      if site.isLogged (sink.enables scene.sink) then next.run (site.sceneAsked sink scene)
      else (.ok false, site.sceneAsked sink scene) := by
  rw [CallSite.gate, StateT.run_bind, run_findEnabled]
  cases site.isLogged (sink.enables scene.sink) with
  | true => rfl
  | false => rfl

theorem acts_sceneAsked :
    (site.sceneAsked sink scene).acts
      = scene.acts ++ if site.asks then [.asked site.level] else [] := by
  rw [CallSite.sceneAsked]
  split
  · rfl
  · exact (List.append_nil _).symm

theorem sink_sceneAsked :
    (site.sceneAsked sink scene).sink
      = sink.after scene.sink (if site.asks then [.asked site.level] else []) := by
  rw [CallSite.sceneAsked]
  split <;> rfl

theorem cell_sceneAsked : (site.sceneAsked sink scene).cell = scene.cell := by
  rw [CallSite.sceneAsked]
  split <;> rfl

/-- A formatter refuses nothing but the number of the arguments, so no message is empty for
    that reason. -/
theorem checkedRecord_eq_argumentsRecord (formatter : Formatter) (values : List Value) :
    site.checkedRecord formatter values = site.argumentsRecord formatter values := by
  rw [CallSite.checkedRecord, CallSite.argumentsRecord, Formatter.format]
  by_cases hlength : values.length = formatter.arity
  · rw [if_pos hlength, if_pos hlength]
    rfl
  · rw [if_neg hlength, if_neg hlength]
    rfl

/-- A call that is refused has asked its question, and nothing else was done. -/
theorem sceneAsked_of_silent (build : Build) :
    (site.sceneAsked sink scene).acts = scene.acts ++ site.silent.acts site build ∧
      (site.sceneAsked sink scene).sink = sink.after scene.sink (site.silent.acts site build) := by
  have hacts : site.silent.acts site build = if site.asks then [.asked site.level] else [] :=
    List.append_nil _
  rw [hacts]
  exact ⟨acts_sceneAsked, sink_sceneAsked⟩

/-- A call that is not refused leaves the sink as its question and its record do, whatever
    it builds in between. -/
theorem sink_after_handOver {built : Bool} {build : Build} (payload : Except PayloadError Record) :
    payload.toOption.elim (site.sceneAsked sink scene).sink
        (sink.log · (site.sceneAsked sink scene).sink)
      = sink.after scene.sink ((site.handOver built payload).acts site build) := by
  rw [sink_sceneAsked]
  show _ = List.foldl sink.perform _ (_ ++ ((if built then [.built build] else []) ++ _))
  rw [List.foldl_append, List.foldl_append]
  cases built <;> cases payload <;> rfl

/-- **Logging fields goes as the emission tells.** -/
theorem run_logFields (sink : Sink σ) (site : CallSite) (scene : Scene σ)
    (build : Except PayloadError FieldList) :
    let e := site.emitFields (sink.enables scene.sink) build
    let after := (site.logFields sink build).run scene
    after.1 = e.result ∧ after.2.cell = scene.cell ∧
      after.2.acts = scene.acts ++ e.acts site .fields ∧
      after.2.sink = sink.after scene.sink (e.acts site .fields) := by
  rw [CallSite.logFields, run_gate, CallSite.emitFields]
  by_cases hlogged : site.isLogged (sink.enables scene.sink) = true
  · rw [if_pos hlogged, if_pos hlogged, run_runBuilder_bind, Sink.run_deliver]
    refine ⟨rfl, cell_sceneAsked, ?_, sink_after_handOver _⟩
    show ((site.sceneAsked sink scene).acts ++ _) ++ _ = _
    rw [acts_sceneAsked, List.append_assoc, List.append_assoc]
    rfl
  · rw [if_neg hlogged, if_neg hlogged]
    exact ⟨rfl, cell_sceneAsked, sceneAsked_of_silent .fields⟩

/-- **Logging arguments goes as the emission tells.** -/
theorem run_logArguments (sink : Sink σ) (site : CallSite) (scene : Scene σ)
    (values : List Value) :
    let e := site.emitArguments (sink.enables scene.sink) scene.cell values
    let after := (site.logArguments sink values).run scene
    after.1 = e.1.result ∧ after.2.cell = e.2 ∧
      after.2.acts = scene.acts ++ e.1.acts site .formatter ∧
      after.2.sink = sink.after scene.sink (e.1.acts site .formatter) := by
  rw [CallSite.logArguments, run_gate, CallSite.emitArguments]
  simp only [checkedRecord_eq_argumentsRecord]
  by_cases hlogged : site.isLogged (sink.enables scene.sink) = true
  · rw [if_pos hlogged, if_pos hlogged, run_openCell_bind, Sink.run_deliver, cell_sceneAsked]
    refine ⟨rfl, rfl, ?_, sink_after_handOver _⟩
    show ((site.sceneAsked sink scene).acts ++ _) ++ _ = _
    rw [acts_sceneAsked, List.append_assoc, List.append_assoc]
    rfl
  · rw [if_neg hlogged, if_neg hlogged]
    exact ⟨rfl, cell_sceneAsked, sceneAsked_of_silent .formatter⟩

end StructuredLog
