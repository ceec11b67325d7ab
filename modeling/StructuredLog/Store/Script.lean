import StructuredLog.Store.Session

/-! # Scripted hosts — a store that fails as told

    A script lists, for each kind of request, the answers to give in place of
    the store's own, one for each request of that kind in turn; where the list
    says nothing or has run out, the store answers.  A scripted host also notes
    the store requests it was made and can cancel the session when a given
    number of appends have been started. -/

namespace StructuredLog

/-- What a script does to a snapshot. -/
inductive SnapshotFault where
  | error (e : StoreRefusal)
  /-- The container seems not to exist. -/
  | missing
  /-- The declarations behind the methods are gone. -/
  | withoutDeclarations
  deriving DecidableEq, Repr

/-- What a script does to an append. -/
inductive AppendFault where
  | error (e : StoreRefusal)
  /-- Someone else appends this declaration to the container first. -/
  | interloper (d : Declaration)
  deriving DecidableEq, Repr

/-- A kind of store request. -/
inductive StoreRequest where
  | generation
  | snapshot
  | create
  | append
  deriving DecidableEq, Repr

/-- The answers still to be given in place of the store's. -/
structure Script where
  generations : List (Option Nat) := []
  snapshots : List (Option SnapshotFault) := []
  creates : List (Option StoreRefusal) := []
  appends : List (Option AppendFault) := []
  /-- Where calls are found, in turn; when used up, where they were. -/
  relocations : List (Option Span) := []
  /-- The number of the append whose start cancels the session. -/
  cancelAtAppend? : Option Nat := none
  deriving Repr

/-- A store behind a script. -/
structure ScriptedStore where
  store : Store := .empty
  script : Script := {}
  isCancelled : Bool := false
  /-- The number of appends started. -/
  appendCount : Nat := 0
  /-- The store requests made so far, the latest first. -/
  requests : List StoreRequest := []
  deriving Repr

namespace ScriptedStore

/-- The host with one more request noted. -/
def note (s : ScriptedStore) (request : StoreRequest) : ScriptedStore :=
  { s with requests := request :: s.requests }

/-- The next entry of a list of faults. -/
def nextFault (faults : List (Option α)) : Option α :=
  faults.head?.join

/-- The generation, or what the script says. -/
def answerGeneration (s : ScriptedStore) : Nat × ScriptedStore :=
  let rest := { s.script with generations := s.script.generations.tail }
  ((nextFault s.script.generations).getD s.store.generation,
    { s.note .generation with script := rest })

/-- The snapshot of a container, or what the script makes of it. -/
def answerSnapshot (name : String) (s : ScriptedStore) :
    Except StoreRefusal (Option Snapshot) × ScriptedStore :=
  let rest := { s.script with snapshots := s.script.snapshots.tail }
  let answer := match nextFault s.script.snapshots with
    | some (.error e) => .error e
    | some .missing => .ok none
    | some .withoutDeclarations =>
      .ok ((s.store.snapshot? name).map fun snapshot => { snapshot with declarations := [] })
    | none => .ok (s.store.snapshot? name)
  (answer, { s.note .snapshot with script := rest })

/-- Make sure that a container exists, unless the script fails. -/
def answerCreate (name : String) (s : ScriptedStore) : Except StoreRefusal Unit × ScriptedStore :=
  let after := { s.note .create with
    script := { s.script with creates := s.script.creates.tail } }
  match nextFault s.script.creates with
  | some e => (.error e, after)
  | none => (.ok (), { after with store := s.store.create name })

/-- Append a declaration, unless the script fails or lets someone else in. -/
def answerAppend (name : String) (expected : Nat) (d : Declaration) (s : ScriptedStore) :
    Except StoreRefusal Nat × ScriptedStore :=
  let count := s.appendCount + 1
  let after := { s.note .append with
    script := { s.script with appends := s.script.appends.tail }
    appendCount := count
    isCancelled := s.isCancelled || s.script.cancelAtAppend? == some count }
  let appendTo (store : Store) :=
    let (answer, store) := store.append name expected d
    (answer, { after with store })
  match nextFault s.script.appends with
  | some (.error e) => (.error e, after)
  | some (.interloper other) => appendTo (s.store.append name s.store.generation other).2
  | none => appendTo s.store

/-- Where a call is found. -/
def answerRelocate (call : AdHocCall) (s : ScriptedStore) : Option Span × ScriptedStore :=
  match s.script.relocations with
  | [] => (some call.span, s)
  | answer :: rest => (answer, { s with script := { s.script with relocations := rest } })

/-- The host that follows its script. -/
def host : Host ScriptedStore where
  generation := answerGeneration
  snapshot := answerSnapshot
  create := answerCreate
  append := answerAppend
  relocate := answerRelocate
  isCancelled s := (s.isCancelled, s)

end ScriptedStore

end StructuredLog
