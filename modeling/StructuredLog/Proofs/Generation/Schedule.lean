import Mathlib.Data.List.Basic
import StructuredLog.Generation.Batch
import StructuredLog.HostType.Facts

/-! # Schedules — what the order of the starts can change

    A pool starts the containers of a batch in any order, each at most once, and
    leaves one out only if another was started late, after the cancellation flag
    was set (`IsPoolRun`).  The flag is read at each start and nowhere else, and
    stays set (`startsInTime_append`), so the check of a container tells whether
    it was started late, and a container that was not has the output it has in
    any run (`getElem?_outputsInTime`).

    So a run with a late start has no result, and every other run has the result
    of a run in order on one thread (`schedule_decides_only_cancellation`). -/

namespace StructuredLog

variable {schedule : List RunEvent} {cancelled inTime : Bool} {count i : Nat}

/-! ## Runs of a pool -/

/-- The container that is started. -/
def RunEvent.started? : RunEvent → Option Nat
  | .cancel => none
  | .start i => some i

/-- The container at an index is started after the flag was set. -/
def StartsLate (schedule : List RunEvent) (i : Nat) : Prop :=
  ∃ before after, schedule = before ++ .start i :: after ∧ .cancel ∈ before

/-- The schedules of a pool that generates `count` containers. -/
structure IsPoolRun (count : Nat) (schedule : List RunEvent) : Prop where
  lt_of_start : ∀ i, .start i ∈ schedule → i < count
  startedOnce : (schedule.filterMap RunEvent.started?).Nodup
  /-- A container is left out only after another was found cancelled. -/
  start_of_inTime : (∀ i, ¬StartsLate schedule i) → ∀ i < count, .start i ∈ schedule

/-- One thread that takes the containers in order is a run of the pool. -/
theorem isPoolRun_inOrderSchedule (count : Nat) :
    IsPoolRun count (inOrderSchedule false count) where
  lt_of_start := by
    intro i h
    obtain ⟨j, hj, heq⟩ := List.mem_map.mp h
    rw [← RunEvent.start.inj heq]
    exact List.mem_range.mp hj
  startedOnce := by
    show (List.filterMap _ ((List.range count).map RunEvent.start)).Nodup
    rw [List.filterMap_map]
    show ((List.range count).filterMap some).Nodup
    rw [List.filterMap_some]
    exact List.nodup_range
  start_of_inTime := fun _ i hi => List.mem_map_of_mem (List.mem_range.mpr hi)

theorem not_startsLate_inOrderSchedule (i : Nat) : ¬StartsLate (inOrderSchedule false count) i := by
  rintro ⟨before, after, hschedule, hcancel⟩
  have hmem : RunEvent.cancel ∈ (List.range count).map RunEvent.start := by
    have := List.mem_append_left (.start i :: after) hcancel
    rwa [← hschedule] at this
  obtain ⟨j, -, heq⟩ := List.mem_map.mp hmem
  exact nomatch heq

/-! ## Checks of the flag -/

theorem map_fst_startsInTime :
    (startsInTime cancelled schedule).map Prod.fst = schedule.filterMap RunEvent.started? := by
  induction schedule generalizing cancelled with
  | nil => rfl
  | cons event events ih =>
      cases event with
      | cancel => exact ih
      | start j => exact congrArg (j :: ·) ih

/-- The flag stays set: a start is late if it was set anywhere before. -/
theorem startsInTime_append (before events : List RunEvent) :
    startsInTime cancelled (before ++ events)
      = startsInTime cancelled before
        ++ startsInTime (cancelled || before.contains .cancel) events := by
  induction before generalizing cancelled with
  | nil => rw [List.contains_nil, Bool.or_false]; rfl
  | cons event before ih =>
      rw [List.contains_cons]
      cases event with
      | cancel =>
          show startsInTime true (before ++ events) = _
          rw [ih, beq_self_eq_true, Bool.true_or, Bool.or_true]
          rfl
      | start j =>
          have hne : (RunEvent.cancel == .start j) = false := rfl
          show (j, !cancelled) :: startsInTime cancelled (before ++ events) = _
          rw [ih, hne, Bool.false_or]
          rfl

theorem mem_startsInTime (before after : List RunEvent) (i : Nat) :
    (i, !before.contains .cancel) ∈ startsInTime false (before ++ .start i :: after) := by
  rw [startsInTime_append, Bool.false_or]
  exact List.mem_append_right _ List.mem_cons_self

/-- The check of a late start sees the flag. -/
theorem StartsLate.mem_startsInTime (h : StartsLate schedule i) :
    (i, false) ∈ startsInTime false schedule := by
  obtain ⟨before, after, rfl, hcancel⟩ := h
  have hmem := StructuredLog.mem_startsInTime before after i
  rw [List.contains_iff_mem.mpr hcancel] at hmem
  exact hmem

theorem lookup_of_mem {starts : List (Nat × Bool)} (hnodup : (starts.map Prod.fst).Nodup)
    (h : (i, inTime) ∈ starts) : starts.lookup i = some inTime := by
  obtain ⟨before, after, rfl⟩ := List.append_of_mem h
  refine List.lookup_eq_some_iff.mpr ⟨before, after, rfl, ?_⟩
  intro p hp
  rw [List.map_append, List.nodup_append] at hnodup
  have hne := hnodup.2.2 p.1 (List.mem_map_of_mem hp) i List.mem_cons_self
  exact bne_iff_ne.mpr (Ne.symm hne)

namespace IsPoolRun

theorem lookup_of_late (h : IsPoolRun count schedule) (hlate : StartsLate schedule i) :
    (startsInTime false schedule).lookup i = some false :=
  lookup_of_mem (by rw [map_fst_startsInTime]; exact h.startedOnce) hlate.mem_startsInTime

/-- If no container starts late, each one starts in time. -/
theorem lookup_of_inTime (h : IsPoolRun count schedule) (hinTime : ∀ i, ¬StartsLate schedule i)
    (hi : i < count) : (startsInTime false schedule).lookup i = some true := by
  refine lookup_of_mem (by rw [map_fst_startsInTime]; exact h.startedOnce) ?_
  obtain ⟨before, after, hschedule⟩ := List.append_of_mem (h.start_of_inTime hinTime i hi)
  have hcancel : before.contains .cancel = false := by
    rw [← Bool.not_eq_true, List.contains_iff_mem]
    exact fun hmem => hinTime i ⟨before, after, hschedule, hmem⟩
  have hmem := mem_startsInTime before after i
  rw [hcancel, ← hschedule] at hmem
  exact hmem

/-- A late start lies among the containers. -/
theorem lt_of_late (h : IsPoolRun count schedule) (hlate : StartsLate schedule i) : i < count := by
  obtain ⟨before, after, rfl, -⟩ := hlate
  exact h.lt_of_start i (List.mem_append_right _ List.mem_cons_self)

end IsPoolRun

/-! ## Gathering the outputs -/

theorem mapM_id_map_some {α : Type} (as : List α) : (as.map some).mapM id = some as := by
  have hpure := List.mapM_pure (m := Option) (l := as) (f := id)
  rw [List.map_id] at hpure
  rw [List.mapM_map]
  exact hpure

theorem mapM_id_eq_none {α : Type} {as : List (Option α)} (h : none ∈ as) : as.mapM id = none := by
  induction as with
  | nil => exact nomatch h
  | cons a as ih =>
      rw [List.mapM_cons]
      cases a with
      | none => rfl
      | some a =>
          rcases List.mem_cons.mp h with hnone | hlater
          · exact nomatch hnone
          · rw [ih hlater]
            rfl

variable {system : TypeSystem} {options : BatchOptions} {inputs : List ContainerSource}

/-- The outputs of the containers, for those that are started in time. -/
def outputsInTime (system : TypeSystem) (options : BatchOptions) (schedule : List RunEvent)
    (inputs : List ContainerSource) : List (Option GeneratedContainer) :=
  inputs.mapIdx fun index input =>
    match (startsInTime false schedule).lookup index with
    | some true => some (input.generate system options)
    | _ => none

theorem generateBatchCancellable_eq :
    generateBatchCancellable system options schedule inputs =
      match (outputsInTime system options schedule inputs).mapM id with
      | some containers => .ok (.ofContainers options containers)
      | none => .error .beforeEnd := rfl

theorem getElem?_outputsInTime {input : ContainerSource} (hinput : inputs[i]? = some input) :
    (outputsInTime system options schedule inputs)[i]? =
      some (match (startsInTime false schedule).lookup i with
        | some true => some (input.generate system options)
        | _ => none) := by
  rw [outputsInTime, List.getElem?_mapIdx, hinput]
  rfl

/-- A run without a late start generates every container. -/
theorem generateBatchCancellable_of_inTime (h : IsPoolRun inputs.length schedule)
    (hinTime : ∀ i, ¬StartsLate schedule i) :
    generateBatchCancellable system options schedule inputs
      = .ok (generateBatch system options inputs) := by
  have houtputs : outputsInTime system options schedule inputs
      = (inputs.map (·.generate system options)).map some := by
    refine List.ext_getElem? ?_
    intro i
    rw [List.getElem?_map, List.getElem?_map]
    cases hinput : inputs[i]? with
    | none =>
        rw [outputsInTime, List.getElem?_mapIdx, hinput]
        rfl
    | some input =>
        obtain ⟨hi, -⟩ := List.getElem?_eq_some_iff.mp hinput
        rw [getElem?_outputsInTime hinput, h.lookup_of_inTime hinTime hi]
        rfl
  rw [generateBatchCancellable_eq, houtputs, mapM_id_map_some]
  rfl

/-- A late start leaves the run without a result. -/
theorem generateBatchCancellable_of_late (h : IsPoolRun inputs.length schedule)
    (hlate : StartsLate schedule i) :
    generateBatchCancellable system options schedule inputs = .error .beforeEnd := by
  obtain ⟨input, hinput⟩ : ∃ input, inputs[i]? = some input :=
    ⟨_, List.getElem?_eq_getElem (h.lt_of_late hlate)⟩
  have hnone : none ∈ outputsInTime system options schedule inputs := by
    refine List.mem_iff_getElem?.mpr ⟨i, ?_⟩
    rw [getElem?_outputsInTime hinput, h.lookup_of_late hlate]
  rw [generateBatchCancellable_eq, mapM_id_eq_none hnone]

/-- **A schedule decides nothing but whether the run is cancelled.**  A run ends without a
    result or with the result of the run in order on one thread, and it ends without one
    exactly if a container was started late. -/
theorem schedule_decides_only_cancellation (system : TypeSystem) (options : BatchOptions)
    (h : IsPoolRun inputs.length schedule) :
    (generateBatchCancellable system options schedule inputs = .error .beforeEnd ∨
      generateBatchCancellable system options schedule inputs
        = generateBatchCancellable system options (inOrderSchedule false inputs.length) inputs) ∧
    (generateBatchCancellable system options schedule inputs = .error .beforeEnd ↔
      ∃ i, StartsLate schedule i) ∧
    generateBatchCancellable system options (inOrderSchedule false inputs.length) inputs
      = .ok (generateBatch system options inputs) := by
  have hinOrder : generateBatchCancellable system options (inOrderSchedule false inputs.length) inputs
      = .ok (generateBatch system options inputs) :=
    generateBatchCancellable_of_inTime (isPoolRun_inOrderSchedule inputs.length)
      not_startsLate_inOrderSchedule
  by_cases hlate : ∃ i, StartsLate schedule i
  · obtain ⟨i, hi⟩ := hlate
    have hcancelled : generateBatchCancellable system options schedule inputs = .error .beforeEnd :=
      generateBatchCancellable_of_late h hi
    exact ⟨.inl hcancelled, iff_of_true hcancelled ⟨i, hi⟩, hinOrder⟩
  · have hok : generateBatchCancellable system options schedule inputs
        = .ok (generateBatch system options inputs) :=
      generateBatchCancellable_of_inTime h (not_exists.mp hlate)
    rw [hok, hinOrder]
    exact ⟨.inr rfl, iff_of_false (fun heq => nomatch heq) hlate, rfl⟩

/-- Two containers of one method each. -/
def greetings : List ContainerSource :=
  ["Hello", "Bye"].map fun name =>
    { name
      declarations :=
        [{ name, parameters := [], marking := { eventId := 1, level? := none, message := name } }] }

/-- Started in time, the containers may come in any order; a flag that is set first cancels
    the run, and the container that nobody started is not missed. -/
theorem schedule_decides_only_cancellation_greetings :
    (IsPoolRun 2 [.start 1, .start 0, .cancel] ∧
      generateBatchCancellable TypeFacts.empty.system {} [.start 1, .start 0, .cancel] greetings
        = generateBatchCancellable TypeFacts.empty.system {} (inOrderSchedule false 2) greetings) ∧
    (IsPoolRun 2 [.cancel, .start 1] ∧
      generateBatchCancellable TypeFacts.empty.system {} [.cancel, .start 1] greetings
        = .error .beforeEnd) := by
  have hinTime : IsPoolRun greetings.length [.start 1, .start 0, .cancel] := by
    refine ⟨?_, by decide, ?_⟩
    · intro i hi
      have : i = 1 ∨ i = 0 := by simpa using hi
      show i < 2
      omega
    · intro _ i (hi : i < 2)
      have : i = 1 ∨ i = 0 := by omega
      simpa using this
  have hlate : StartsLate [.cancel, .start 1] 1 := ⟨[.cancel], [], rfl, List.mem_singleton.mpr rfl⟩
  have hcancelled : IsPoolRun greetings.length [.cancel, .start 1] := by
    refine ⟨?_, by decide, fun hnone => absurd hlate (hnone 1)⟩
    intro i hi
    have : i = 1 := by simpa using hi
    show i < 2
    omega
  refine ⟨⟨hinTime, ?_⟩, hcancelled, ?_⟩
  · obtain ⟨hresult, herror, -⟩ := schedule_decides_only_cancellation TypeFacts.empty.system {} hinTime
    refine hresult.resolve_left fun hnone => ?_
    obtain ⟨i, hi⟩ := herror.mp hnone
    have hmem : (i, false) ∈ [(1, true), (0, true)] := hi.mem_startsInTime
    simp at hmem
  · exact (schedule_decides_only_cancellation _ _ hcancelled).2.1.mpr ⟨1, hlate⟩

end StructuredLog
