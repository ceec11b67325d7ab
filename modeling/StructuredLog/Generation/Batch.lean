import StructuredLog.Cancellation
import StructuredLog.Diagnostic.Queue
import StructuredLog.Generation.Container

/-! # Generating a batch of containers

    The containers of a batch share nothing, so they may be generated in any
    order and the run may be cancelled between them.  A run is described by
    its schedule: the moments at which containers are started, in the order in
    which a pool starts them, and the moment at which the cancellation flag is
    set.  A container that is started after the flag was set is skipped, and
    one skipped container drops the whole result. -/

namespace StructuredLog

/-- The declarations of one container. -/
structure ContainerSource where
  name : String
  declarations : List Declaration
  deriving DecidableEq, Repr

/-- The choices of one batch run. -/
structure BatchOptions where
  generator : GeneratorOptions := {}
  diagnostics : QueueConfig := {}
  deriving DecidableEq, Repr

/-- What comes of a batch. -/
structure GeneratedBatch where
  /-- One output for each container, in the order of the input. -/
  containers : List GeneratedContainer
  /-- The diagnostics of all containers, in source order and up to the limit. -/
  diagnostics : List Diagnostic
  /-- Whether an error was reported. -/
  hasErrors : Bool
  deriving Repr

/-- Generate one container of a batch. -/
def ContainerSource.generate (system : TypeSystem) (options : BatchOptions)
    (input : ContainerSource) : GeneratedContainer :=
  generateContainer system options.generator input.name input.declarations

/-- The output of a batch whose containers are all generated. -/
def GeneratedBatch.ofContainers (options : BatchOptions) (containers : List GeneratedContainer) :
    GeneratedBatch :=
  let queue := (ReportQueue.empty options.diagnostics).extend
    (containers.flatMap GeneratedContainer.diagnostics)
  { containers, diagnostics := queue.flushed, hasErrors := queue.hasErrors }

/-- Generate every container. -/
def generateBatch (system : TypeSystem) (options : BatchOptions) (inputs : List ContainerSource) :
    GeneratedBatch :=
  .ofContainers options (inputs.map (·.generate system options))

/-! ## Cancellable runs -/

/-- A moment of a run. -/
inductive RunEvent where
  /-- The cancellation flag is set. -/
  | cancel
  /-- The container at this index is started. -/
  | start (index : Nat)
  deriving DecidableEq, Repr

/-- Whether each container that a schedule starts is started before the flag is
    set, by index and in the order of their starts. -/
def startsInTime (cancelled : Bool) : List RunEvent → List (Nat × Bool)
  | [] => []
  | .cancel :: events => startsInTime true events
  | .start index :: events => (index, !cancelled) :: startsInTime cancelled events

/-- The schedule of a run on one thread: every container in order, under a flag
    that is set beforehand or not at all. -/
def inOrderSchedule (cancelledBefore : Bool) (count : Nat) : List RunEvent :=
  (if cancelledBefore then [.cancel] else []) ++ (List.range count).map .start

/-- Generate every container under a schedule.  The outputs are gathered in the
    order of the input, and there are none if any container was skipped or
    never started. -/
def generateBatchCancellable (system : TypeSystem) (options : BatchOptions)
    (schedule : List RunEvent) (inputs : List ContainerSource) : Except Cancelled GeneratedBatch :=
  let starts := startsInTime false schedule
  let outputs := inputs.mapIdx fun index input =>
    match starts.lookup index with
    | some true => some (input.generate system options)
    | _ => none
  match outputs.mapM id with
  | some containers => .ok (.ofContainers options containers)
  | none => .error .beforeEnd

end StructuredLog
