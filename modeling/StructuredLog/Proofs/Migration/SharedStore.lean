import StructuredLog.Proofs.Migration.Atomicity
import StructuredLog.Proofs.Migration.Verdict
import StructuredLog.Proofs.Store.Generations

/-! # Shared stores — what a migration can rely on

    Others may do anything to the store between two requests of a migration
    (`Session.HeldAmid`), and yet the store never fails it.  A method that is to be
    reused was found in a snapshot, and a snapshot lists only methods whose
    declarations it holds, so that the declaration is found as well
    (`Store.Consistent.exists_stored`).  And a method that is to be minted is
    appended at the generation of the snapshot: if that is still current, the store
    has the same content, and the container exists.  What remains is a conflict,
    which calls for another attempt (`AdHocCall.ne_store_of_attempt`). -/

namespace StructuredLog

/-! ## Sharing a store -/

/-- A session held at a store that others use too: before a request to the store is
    answered they may do anything to it, and the front end answers what it likes. -/
inductive Session.HeldAmid {α : Type} : Store → Session α → α → Prop where
  | done (s : Store) (result : α) : HeldAmid s (.done result) result
  | generation {s : Store} {next : Nat → Session α} {result : α} (others : List StoreOperation)
      (h : HeldAmid (s.after others) (next (s.after others).generation) result) :
      HeldAmid s (.generation next) result
  | snapshot {s : Store} {name : String}
      {next : Except StoreRefusal (Option Snapshot) → Session α} {result : α}
      (others : List StoreOperation)
      (h : HeldAmid (s.after others) (next (.ok (Store.snapshot? (s.after others) name))) result) :
      HeldAmid s (.snapshot name next) result
  | create {s : Store} {name : String} {next : Except StoreRefusal Unit → Session α} {result : α}
      (others : List StoreOperation)
      (h : HeldAmid ((s.after others).create name) (next (.ok ())) result) :
      HeldAmid s (.create name next) result
  | append {s : Store} {name : String} {expected : Nat} {d : Declaration}
      {next : Except StoreRefusal Nat → Session α} {result : α} (others : List StoreOperation)
      (h : HeldAmid ((s.after others).append name expected d).2
        (next ((s.after others).append name expected d).1) result) :
      HeldAmid s (.append name expected d next) result
  | relocate {s : Store} {call : AdHocCall} {next : Option Span → Session α} {result : α}
      (answer : Option Span) (h : HeldAmid s (next answer) result) :
      HeldAmid s (.relocate call next) result
  | isCancelled {s : Store} {next : Bool → Session α} {result : α} (answer : Bool)
      (h : HeldAmid s (next answer) result) : HeldAmid s (.isCancelled next) result

/-- A store of one's own is one that the others leave alone. -/
theorem Session.heldAmid_run {α : Type} (session : Session α) (s : Store) :
    session.HeldAmid s (session.run Store.host s).1 := by
  induction session generalizing s with
  | done result => exact .done s result
  | generation next ih => exact .generation [] (ih _ s)
  | snapshot name next ih => exact .snapshot [] (ih _ s)
  | create name next ih => exact .create [] (ih _ (s.create name))
  | append name expected d next ih => exact .append [] (ih _ (s.append name expected d).2)
  | relocate call next ih => exact .relocate (some call.span) (ih _ s)
  | isCancelled next ih => exact .isCancelled false (ih _ s)

/-! ## Reusing -/

namespace Store

variable {s : Store} {name : String} {snapshot : Snapshot}

/-- A snapshot shows the declarations of its container and the generation it was taken at. -/
theorem Consistent.snapshot_eq (h : s.Consistent) (hsnapshot : s.snapshot? name = some snapshot) :
    s.entry? name = some (.ofDeclarations name (s.declarations name)) ∧
      snapshot = ⟨.ofDeclarations name (s.declarations name), s.generation⟩ := by
  cases hentry : s.entry? name with
  | none =>
      rw [snapshot?, hentry] at hsnapshot
      injection hsnapshot
  | some entry =>
      rw [h.snapshot?_eq hentry] at hsnapshot
      exact ⟨hentry ▸ h.entry?_eq hentry, (Option.some.inj hsnapshot).symm⟩

/-- **A method to be reused has its declaration in the snapshot.** -/
theorem Consistent.exists_stored (h : s.Consistent) (hsnapshot : s.snapshot? name = some snapshot)
    {wanted : WantedMethod} {firstEventId : Int32} {resolution : Resolution}
    (hresolution : snapshot.container.methodFor? wanted firstEventId = some resolution)
    (hreused : resolution.isReused = true) :
    ∃ stored ∈ snapshot.declarations,
      snapshot.declaration? ⟨resolution.name, wanted.shape, resolution.eventId⟩ = some stored ∧
        stored.signature = ⟨resolution.name, wanted.shape, resolution.eventId⟩ := by
  have hlisted := Container.mem_methods_of_methodFor? hresolution hreused
  obtain ⟨-, rfl⟩ := h.snapshot_eq hsnapshot
  obtain ⟨d, hd, hsignature⟩ := List.mem_map.mp hlisted
  have hfound : (s.declarations name).find?
      (·.signature == ⟨resolution.name, wanted.shape, resolution.eventId⟩) ≠ none := by
    intro hnone
    exact List.find?_eq_none.mp hnone d hd (beq_iff_eq.mpr hsignature)
  obtain ⟨stored, hstored⟩ := Option.ne_none_iff_exists'.mp hfound
  have hmatches := List.find?_some hstored
  exact ⟨stored, List.mem_of_find?_eq_some hstored, hstored, beq_iff_eq.mp hmatches⟩

end Store

/-! ## Migrating -/

namespace AdHocCall

variable {options : MigrationOptions} {call : AdHocCall} {wish : MethodWish} {s : Store}
  {result : MigrationResult}

/-- A method that is appended at the generation of a snapshot is accepted, or meets a
    conflict, and then the next attempt decides. -/
theorem ne_store_of_append (hs : s.Reachable) {name : String} {entry : StoreEntry}
    (hentry : s.entry? name = some entry) {again : Session MigrationResult}
    (hagain : ∀ s' : Store, s'.Reachable → again.HeldAmid s' result →
      ∀ refusal, result ≠ .error (.store refusal))
    {minted : Declaration} {fix : MigratedCall}
    (h : (Session.append name s.generation minted (onAppended again fix)).HeldAmid s result) :
    ∀ refusal, result ≠ .error (.store refusal) := by
  cases h with
  | append others h =>
      by_cases hgeneration : (s.after others).generation = s.generation
      · -- nothing has happened since the snapshot, so the container is there
        rw [Store.after_eq_self hgeneration, Store.append_of_eq rfl hentry] at h
        cases h with
        | done => rintro refusal ⟨⟩
      · rw [Store.append_of_ne hgeneration] at h
        exact hagain _ (hs.after others) h

/-- An attempt that finds its container is not failed by the store, if the next attempt
    is not. -/
theorem ne_store_of_settleIn (hs : s.Reachable) {snapshot : Snapshot}
    (hsnapshot : s.snapshot? options.containerName = some snapshot)
    {again : Session MigrationResult}
    (hagain : ∀ s' : Store, s'.Reachable → again.HeldAmid s' result →
      ∀ refusal, result ≠ .error (.store refusal))
    (h : (call.settleIn options wish again snapshot).HeldAmid s result) :
    ∀ refusal, result ≠ .error (.store refusal) := by
  rw [settleIn] at h
  cases hresolution : snapshot.container.methodFor? wish.wanted options.firstEventId with
  | none =>
      rw [hresolution] at h
      cases h with
      | done => rintro refusal ⟨⟩
  | some resolution =>
      simp only [hresolution] at h
      cases h with
      | relocate span? h =>
          cases span? with
          | none =>
              cases h with
              | done => rintro refusal ⟨⟩
          | some span =>
              by_cases hreused : resolution.isReused = true
              · obtain ⟨stored, -, hstored, -⟩ :=
                  hs.consistent.exists_stored hsnapshot hresolution hreused
                simp only [if_pos hreused, hstored] at h
                cases h with
                | done => rintro refusal ⟨⟩
              · simp only [if_neg hreused] at h
                obtain ⟨hentry, rfl⟩ := hs.consistent.snapshot_eq hsnapshot
                exact ne_store_of_append hs hentry hagain h

/-- **The store fails no attempt.** -/
theorem ne_store_of_attempt {attempts last : Nat} (hs : s.Reachable)
    (h : (call.attempt options wish attempts last).HeldAmid s result) :
    ∀ refusal, result ≠ .error (.store refusal) := by
  induction attempts generalizing s last with
  | zero =>
      cases h with
      | done => rintro refusal ⟨⟩
  | succ attempts ih =>
      cases h with
      | generation others h =>
          have hs := hs.after others
          by_cases hlast : (s.after others).generation < last
          · simp only [if_pos hlast] at h
            cases h with
            | done => rintro refusal ⟨⟩
          · simp only [if_neg hlast] at h
            cases h with
            | snapshot others' h =>
                have hs := hs.after others'
                cases hsnapshot : Store.snapshot? ((s.after others).after others')
                    options.containerName with
                | some snapshot =>
                    rw [hsnapshot] at h
                    exact ne_store_of_settleIn hs hsnapshot (fun s' hs' => ih hs') h
                | none =>
                    rw [hsnapshot] at h
                    cases h with
                    | create others'' h => exact ih ((hs.after others'').create _) h

/-- The store fails no migration. -/
theorem ne_store_of_migrate {model : HostModel} (hs : s.Reachable)
    (h : (call.migrate model options).HeldAmid s result) :
    ∀ refusal, result ≠ .error (.store refusal) := by
  rw [migrate] at h
  cases hwish : call.wish model options with
  | ok wish =>
      rw [hwish] at h
      exact ne_store_of_attempt hs h
  | error e =>
      rw [hwish] at h
      cases h with
      | done =>
          have hlies := liesInCall_of_wish_eq_error hwish
          intro refusal herror
          rw [Except.error.inj herror] at hlies
          exact Bool.false_ne_true hlies

end AdHocCall

namespace Store

/-- **A store is consistent, and its generation identifies its content**, whatever is
    done to it.  Each container bears its name and lists its declarations; an
    operation changes nothing or raises the generation by one; an append is accepted
    at the current generation of a container that exists, and adds to that container
    only.  So a migration that is to reuse a method of a snapshot finds its
    declaration, and the store fails no migration. -/
theorem generation_identifies_content (operations : List StoreOperation) :
    -- containers
    (∀ name entry, Store.entry? (empty.after operations) name = some entry →
      entry.container.name = name ∧
        entry.container.methods = entry.declarations.map Declaration.signature) ∧
    -- generations
    (∀ operation,
      ((empty.after operations).isChangedBy operation = false ∧
          (empty.after operations).perform operation = empty.after operations) ∨
        ((empty.after operations).isChangedBy operation = true ∧
          ((empty.after operations).perform operation).generation
            = (empty.after operations).generation + 1)) ∧
    (∀ i j, (empty.after (operations.take i)).generation
        = (empty.after (operations.take j)).generation →
      empty.after (operations.take i) = empty.after (operations.take j)) ∧
    -- appends
    (∀ name expected d,
      (((empty.after operations).append name expected d).1.isOk = true ↔
        (empty.after operations).generation = expected ∧
          ∃ entry, Store.entry? (empty.after operations) name = some entry) ∧
      ∀ entry, (empty.after operations).generation = expected →
        Store.entry? (empty.after operations) name = some entry →
          Store.entry? ((empty.after operations).append name expected d).2 name
              = some (.ofDeclarations name (entry.declarations ++ [d])) ∧
            ∀ other, other ≠ name →
              Store.entry? ((empty.after operations).append name expected d).2 other
                = Store.entry? (empty.after operations) other) ∧
    -- migrations
    (∀ name snapshot wanted firstEventId resolution,
      Store.snapshot? (empty.after operations) name = some snapshot →
        snapshot.container.methodFor? wanted firstEventId = some resolution →
          resolution.isReused = true →
            ∃ stored ∈ snapshot.declarations,
              snapshot.declaration? ⟨resolution.name, wanted.shape, resolution.eventId⟩
                  = some stored ∧
                stored.signature = ⟨resolution.name, wanted.shape, resolution.eventId⟩) ∧
    ∀ (model : HostModel) (options : MigrationOptions) (call : AdHocCall) (result : MigrationResult),
      (call.migrate model options).HeldAmid (empty.after operations) result →
        ∀ refusal, result ≠ .error (.store refusal) := by
  have hreachable := Reachable.empty.after operations
  have hconsistent := hreachable.consistent
  refine ⟨fun name entry => hconsistent.entry_eq, perform_cases _, fun i j => eq_of_generation_eq,
    ?_, ?_, ?_⟩
  · intro name expected d
    refine ⟨append_isOk_iff, ?_⟩
    intro entry hgeneration hentry
    obtain ⟨-, hself, hothers⟩ := entry?_append hgeneration hentry d
    obtain ⟨ds, rfl⟩ := hconsistent name entry hentry
    rw [StoreEntry.push_ofDeclarations] at hself
    exact ⟨hself, hothers⟩
  · intro name snapshot wanted firstEventId resolution hsnapshot hresolution hreused
    exact hconsistent.exists_stored hsnapshot hresolution hreused
  · intro model options call result h
    exact AdHocCall.ne_store_of_migrate hreachable h

/-- Creating a container again leaves its generation, and so its content, as it is; the
    store then does not fail a migration into it. -/
theorem generation_identifies_content_created :
    empty.after [.create "Log"] = empty.after [.create "Log", .create "Log"] ∧
      ((AdHocCall.plainCall.migrate (.ofTable .conventional) {}).run Store.host
          (empty.after [.create "Log", .create "Log"])).1.isOk = true ∧
      ∀ refusal, ((AdHocCall.plainCall.migrate (.ofTable .conventional) {}).run Store.host
          (empty.after [.create "Log", .create "Log"])).1 ≠ .error (.store refusal) := by
  obtain ⟨-, -, hidentifies, -, -, hmigrates⟩ :=
    generation_identifies_content [.create "Log", .create "Log"]
  refine ⟨hidentifies 1 2 rfl, by decide +kernel, ?_⟩
  exact hmigrates _ _ _ _ (Session.heldAmid_run _ _)

end Store

end StructuredLog
