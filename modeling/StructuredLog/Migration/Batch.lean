import StructuredLog.Cancellation
import StructuredLog.Migration.Call

/-! # Migrating a batch of calls

    The calls of a batch are migrated one after another against one store, so
    names and event ids come out the same on every run.  A call that fails does
    not stop the batch.  A cancelled batch hands out no fix; the methods it has
    appended by then stay, and another run reuses them. -/

namespace StructuredLog

/-- What comes of each call of a batch, in order. -/
structure MigratedBatch where
  fixes : List MigrationResult
  deriving Repr

namespace MigratedBatch

/-- The fixes of the calls that were migrated. -/
def applied (batch : MigratedBatch) : List MigratedCall :=
  batch.fixes.filterMap Except.toOption

/-- The number of methods that were appended to the store. -/
def minted (batch : MigratedBatch) : Nat :=
  (batch.applied.filter (!·.isReused)).length

/-- The indices of the calls that failed, with the reasons. -/
def failures (batch : MigratedBatch) : List (Nat × MigrationFailure) :=
  batch.fixes.zipIdx.filterMap fun (fix, index) =>
    match fix with
    | .ok _ => none
    | .error e => some (index, e)

end MigratedBatch

/-- Migrate calls one after another. -/
def migrateAll (model : HostModel) (options : MigrationOptions) :
    List AdHocCall → Session (List MigrationResult)
  | [] => .done []
  | call :: calls =>
    (call.migrate model options).bind fun fix =>
      (migrateAll model options calls).bind fun fixes => .done (fix :: fixes)

/-- Migrate a batch of calls. -/
def migrateBatch (model : HostModel) (options : MigrationOptions) (calls : List AdHocCall) :
    Session MigratedBatch :=
  (migrateAll model options calls).bind fun fixes => .done ⟨fixes⟩

/-- Migrate calls one after another, and give up when cancelled before one. -/
def migrateAllUnlessCancelled (model : HostModel) (options : MigrationOptions) :
    List AdHocCall → Session (Except Cancelled (List MigrationResult))
  | [] => .done (.ok [])
  | call :: calls =>
    .isCancelled fun
    | true => .done (.error .beforeEnd)
    | false =>
      (call.migrate model options).bind fun fix =>
        (migrateAllUnlessCancelled model options calls).bind fun fixes =>
          .done (fixes.map (fix :: ·))

/-- Migrate a batch of calls, asking before each whether it was cancelled. -/
def migrateBatchCancellable (model : HostModel) (options : MigrationOptions)
    (calls : List AdHocCall) : Session (Except Cancelled MigratedBatch) :=
  (migrateAllUnlessCancelled model options calls).bind fun fixes => .done (fixes.map (⟨·⟩))

end StructuredLog
