import StructuredLog.Proofs.Generation.Container
import StructuredLog.Proofs.Identifier.Derivation
import StructuredLog.Proofs.Migration.Declaring
import StructuredLog.Proofs.Migration.Rerun

/-! # Acceptance — what migration produces, the generator accepts

    Migration never takes a method out of a container, so it is enough that
    each method it adds is sound: its name, derived from the template and
    perhaps numbered, is not reserved; its parameters have the types of their
    roles; and a level that is no exception is found again
    (`isSound_of_minted?`).  Its event id is above all others, so distinct ones
    stay distinct (`nodup_eventIds_concat`).

    Both hold of one verdict, and so of the batch: the container can be
    generated as a whole (`migrated_container_is_accepted`). -/

namespace StructuredLog

variable {table : TypeFacts} {options : MigrationOptions} {generator : GeneratorOptions}
  {call : AdHocCall} {wish : MethodWish} {ds : List Declaration} {minted : Declaration}

/-- No canonical level is an exception. -/
def TypeFacts.LevelIsNoException (table : TypeFacts) : Prop :=
  ∀ type, table.canonical? .level = some type → table.isAssignable type .exception = false

/-! ## One method more -/

/-- A numbered name starts like the one that is derived. -/
theorem startsReserved_nthName (wish : MethodWish) (n : Nat) :
    Identifier.startsReserved '_' (wish.wanted.nthName n) = false := by
  have hbase : Identifier.startsReserved '_' wish.wanted.baseName = false :=
    Identifier.startsReserved_derive wish.roles.template
  have hnil : wish.wanted.baseName.toList ≠ [] :=
    Identifier.toList_derive_ne_nil wish.roles.template
  rcases Nat.lt_or_ge 1 n with hn | hn
  · rw [WantedMethod.nthName_of_lt hn, Identifier.startsReserved_append hnil]
    exact hbase
  · rw [WantedMethod.nthName_of_le hn]
    exact hbase

theorem TypeFacts.LevelIsNoException.of_mem_level (h : table.LevelIsNoException)
    {roles : CallRoles} {s : SortedParameters}
    (hs : s.Serves (.ofTable table) options call roles) :
    ∀ l ∈ s.level, table.system.assignable l.type .exception = false := by
  intro l hl
  obtain ⟨-, type, htype, rfl⟩ := hs.of_mem_level hl
  exact h type htype

/-- A method of the wanted names is sound. -/
theorem isSound_declare_nthName (htable : table.Reachable) (hlevel : table.LevelIsNoException)
    (hinitial : options.reservedInitial = '_') (hreserved : generator.reservedInitial = '_')
    (hwish : call.wish (.ofTable table) options = .ok wish) (n : Nat) (eventId : Int32) :
    (wish.declare (wish.wanted.nthName n) eventId).IsSound table.system generator := by
  obtain ⟨s, hall, hs⟩ := SortedParameters.exists_serves hwish
  have hparameters : wish = ⟨wish.roles, s.all⟩ := congrArg (MethodWish.mk wish.roles) hall
  have hname := startsReserved_nthName wish n
  rw [hparameters] at hname ⊢
  exact isSound_declare htable hs hinitial hreserved
    ((hasRoleTypes_of_serves htable hs).exists_level (hlevel.of_mem_level hs)) hname eventId

/-- **A minted method is sound.** -/
theorem isSound_of_minted? (htable : table.Reachable) (hlevel : table.LevelIsNoException)
    (hinitial : options.reservedInitial = '_') (hreserved : generator.reservedInitial = '_')
    (hwish : call.wish (.ofTable table) options = .ok wish)
    (h : (call.verdict options wish ds).minted? = some minted) :
    minted.IsSound table.system generator := by
  obtain ⟨n, eventId, -, -, rfl⟩ := AdHocCall.exists_stopsAt_of_minted? h
  exact isSound_declare_nthName htable hlevel hinitial hreserved hwish n eventId

/-- **A minted method has a new event id.** -/
theorem nodup_eventIds_concat (h : (ds.map (·.marking.eventId)).Nodup)
    (hminted : (call.verdict options wish ds).minted? = some minted) :
    ((ds ++ [minted]).map (·.marking.eventId)).Nodup := by
  rw [List.map_append]
  refine List.Nodup.append h (List.nodup_singleton _) (List.disjoint_singleton.mpr ?_)
  intro hmem
  obtain ⟨d, hd, heq⟩ := List.mem_map.mp hmem
  exact Int32.ne_of_lt (AdHocCall.eventId_lt_of_minted? hminted d hd) heq

/-! ## A whole batch -/

/-- What the methods of a container share: all are sound, and if they started with
    distinct event ids, they still have distinct ones. -/
structure Acceptable (system : TypeSystem) (generator : GeneratorOptions) (seeds : List Declaration)
    (ds : List Declaration) : Prop where
  sound : ∀ d ∈ ds, d.IsSound system generator
  eventIds : (seeds.map (·.marking.eventId)).Nodup → (ds.map (·.marking.eventId)).Nodup

/-- What is minted on top of acceptable declarations leaves them acceptable. -/
theorem Acceptable.verdict {seeds : List Declaration} (htable : table.Reachable)
    (hlevel : table.LevelIsNoException) (hinitial : options.reservedInitial = '_')
    (hreserved : generator.reservedInitial = '_')
    (hwish : call.wish (.ofTable table) options = .ok wish)
    (h : Acceptable table.system generator seeds ds) :
    Acceptable table.system generator seeds
      (ds ++ (call.verdict options wish ds).minted?.toList) := by
  cases hminted : (call.verdict options wish ds).minted? with
  | none => rwa [Option.toList_none, List.append_nil]
  | some minted =>
      refine ⟨List.forall_mem_append.mpr ⟨h.sound, List.forall_mem_singleton.mpr ?_⟩, ?_⟩
      · exact isSound_of_minted? htable hlevel hinitial hreserved hwish hminted
      · intro hseeds
        exact nodup_eventIds_concat (h.eventIds hseeds) hminted

/-- What the generator makes of a container of a store. -/
def Store.generate (s : Store) (system : TypeSystem) (generator : GeneratorOptions)
    (name : String) : GeneratedContainer :=
  generateContainer system generator name (s.declarations name)

/-- **What migration produces, the generator accepts.**  After a batch on a container
    whose methods can all be generated, they still can, and so can those that
    were minted: without an error, and, if the container had distinct event ids,
    without a warning about them. -/
theorem migrated_container_is_accepted (options : MigrationOptions)
    (generator : GeneratorOptions) (calls : List AdHocCall) {start after : Store}
    {batch : MigratedBatch} (htable : table.Reachable)
    (hlevel : table.LevelIsNoException) (hstart : start.Reachable)
    (hinitial : options.reservedInitial = '_') (hreserved : generator.reservedInitial = '_')
    (hseeds : ∀ d ∈ start.declarations options.containerName,
      (d.generate table.system generator).plan?.isSome = true)
    (hrun : (migrateBatch (.ofTable table) options calls).run Store.host start = (batch, after)) :
    (after.generate table.system generator options.containerName).hasErrors = false ∧
      (after.generate table.system generator options.containerName).container
        = .ofDeclarations options.containerName (after.declarations options.containerName) ∧
      (after.generate table.system generator options.containerName).plans.map some
        = (after.declarations options.containerName).map
            (fun d => (d.generate table.system generator).plan?) ∧
      (((start.declarations options.containerName).map (·.marking.eventId)).Nodup →
        ∀ e ∈ (after.generate table.system generator options.containerName).diagnostics,
          e.code ≠ .repeatedEventId) := by
  have hseeded : Acceptable table.system generator (start.declarations options.containerName)
      (start.declarations options.containerName) :=
    ⟨fun d hd => exists_plan_iff_isSound.mp (Option.isSome_iff_exists.mp (hseeds d hd)), id⟩
  rw [Migrator.run_migrateBatch] at hrun
  obtain ⟨-, rfl⟩ := Prod.mk.inj hrun
  have hafter : Acceptable table.system generator (start.declarations options.containerName)
      ((Migrator.replay (Migrator.ofCalls table options calls) start).2.declarations
        options.containerName) := by
    refine Migrator.replay_preserves
      (P := fun _ => Acceptable table.system generator (start.declarations options.containerName))
      ?_ hstart.consistent hseeded
    intro m hm wish hwish ds hds
    obtain ⟨call, -, rfl⟩ := List.mem_map.mp hm
    exact hds.verdict htable hlevel hinitial hreserved hwish
  obtain ⟨herrors, hcontainer, hplans, hrepeated⟩ :=
    generateContainer_of_isSound options.containerName hafter.sound
  exact ⟨herrors, hcontainer, hplans, fun hnodup => hrepeated (hafter.eventIds hnodup)⟩

/-- Two calls of one template, the first with a level of its own. -/
def arrivals : List AdHocCall :=
  let receiver : CallArgument := { text := "_logger", type? := some "ILogger" }
  let rest : List CallArgument :=
    [.ofText "Hello \x7bUser\x7d", { text := "user", type? := some "string" }]
  [{ method := "Log", receiver
     arguments := { text := "level", type? := some "LogLevel" } :: rest },
    { method := "LogDebug", receiver, arguments := rest }]

/-- A store with one method that can be generated. -/
def arrivalStore : Store :=
  Store.empty.insert "Log"
    [{ name := "Hello"
       parameters := [{ name := "logger", type := "ILogger" }]
       marking := { eventId := 7, level? := some .debug, message := "Hello" } }]

/-- The store after the calls were migrated. -/
def storeAfterArrivals : Store :=
  ((migrateBatch (.ofTable .conventional) {} arrivals).run Store.host arrivalStore).2

/-- The arrivals are stored under names and event ids of their own, and accepted. -/
theorem migrated_container_is_accepted_arrivals :
    (storeAfterArrivals.declarations "Log").map (fun d => (d.name, d.marking.eventId))
        = [("Hello", 7), ("HelloUser", 8), ("HelloUser2", 9)] ∧
      (storeAfterArrivals.generate TypeFacts.conventional.system {} "Log").hasErrors = false ∧
      ∀ e ∈ (storeAfterArrivals.generate TypeFacts.conventional.system {} "Log").diagnostics,
        e.code ≠ .repeatedEventId := by
  have hlevel : TypeFacts.conventional.LevelIsNoException := by
    intro type htype
    obtain rfl := Option.some.inj htype
    decide
  have hseeds : ∀ d ∈ arrivalStore.declarations "Log",
      (d.generate TypeFacts.conventional.system {}).plan?.isSome = true := by
    decide +kernel
  have hrun : (migrateBatch (.ofTable .conventional) {} arrivals).run Store.host arrivalStore
      = (_, storeAfterArrivals) := (Prod.eta _).symm
  have hstart : arrivalStore.Reachable := .insert _ _ .empty
  obtain ⟨herrors, -, -, hrepeated⟩ := migrated_container_is_accepted {} {} arrivals
    TypeFacts.reachable_conventional hlevel hstart rfl rfl hseeds hrun
  exact ⟨by decide +kernel, herrors, hrepeated (by decide +kernel)⟩

end StructuredLog
