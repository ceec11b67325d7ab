import StructuredLog.Proofs.Migration.Replay
import StructuredLog.Proofs.Migration.Settling

/-! # Uniqueness — containers that migration alone has filled

    No two methods of such a container share their name, their event id or
    their shape (`replay_keeps_methods_apart`).  For names and event ids this
    is how they are chosen.  For shapes it is not: `Hello2` can be minted as
    the second `Hello`, and be the first name to try for another template.

    The invariant is that every method got the first of its names that was
    free (`Minted.tried`).  A method of the same shape has the same names to
    try; so it would have been found under one of the names that were passed
    over, or it has passed over the name that was free. -/

namespace StructuredLog

/-- The method that a declaration would be minted for. -/
def Declaration.wanted (d : Declaration) : WantedMethod where
  baseName := Identifier.derive d.marking.message
  shape := d.shape

/-- Declarations that have been minted one after another. -/
structure Minted (ds : List Declaration) : Prop where
  names_nodup : (ds.map Declaration.name).Nodup
  eventIds_lt : ds.Pairwise fun d e => d.marking.eventId < e.marking.eventId
  shapes_nodup : (ds.map Declaration.shape).Nodup
  /-- Each has one of the names to try for it, and those before are taken. -/
  tried : ∀ d ∈ ds, ∃ n, 1 ≤ n ∧ d.name = d.wanted.nthName n ∧
    ∀ i, 1 ≤ i → i < n → d.wanted.nthName i ∈ ds.map Declaration.name

namespace Minted

variable {ds : List Declaration} {minted : Declaration} {container : String} {n : Nat}

theorem nil : Minted [] where
  names_nodup := .nil
  eventIds_lt := .nil
  shapes_nodup := .nil
  tried _ h := nomatch h

/-- A method that is listed under a name is found there by its shape. -/
theorem ofShape?_ne_none {d : Declaration} (hd : d ∈ ds) :
    (Container.ofDeclarations container ds).ofShape? d.name d.shape ≠ none := by
  intro hnone
  have hnamed : d.signature ∈ (Container.ofDeclarations container ds).named d.name :=
    List.mem_filter.mpr ⟨List.mem_map_of_mem hd, beq_self_eq_true d.name⟩
  exact List.find?_eq_none.mp hnone d.signature hnamed (beq_self_eq_true d.shape)

/-- **The shape of a method that is minted is new.** -/
theorem shape_ne (h : Minted ds)
    (hstops : (Container.ofDeclarations container ds).StopsAt minted.wanted n none) :
    ∀ d ∈ ds, d.shape ≠ minted.shape := by
  intro d hd hshape
  have hwanted : d.wanted = minted.wanted :=
    congrArg₂ WantedMethod.mk
      (congrArg (fun shape => Identifier.derive shape.template) hshape) hshape
  have hfree := hstops.free rfl
  rw [Container.names_ofDeclarations] at hfree
  obtain ⟨k, hpos, hname, htried⟩ := h.tried d hd
  rw [hwanted] at hname htried
  rcases Nat.lt_trichotomy k n with hlt | rfl | hlt
  · -- the name of `d` was passed over, where `d` would have been found
    have hnone := (hstops.passes k hpos hlt).2
    rw [← hname, show minted.wanted.shape = d.shape from hshape.symm] at hnone
    exact ofShape?_ne_none hd hnone
  · exact hfree (hname ▸ List.mem_map_of_mem hd)
  · -- `d` passed over the name that is free
    exact hfree (htried n hstops.pos hlt)

/-- **Minting one more method keeps them apart.** -/
theorem concat (h : Minted ds)
    (hstops : (Container.ofDeclarations container ds).StopsAt minted.wanted n none)
    (hname : minted.name = minted.wanted.nthName n)
    (heventId : ∀ d ∈ ds, d.marking.eventId < minted.marking.eventId) :
    Minted (ds ++ [minted]) where
  names_nodup := by
    have hfree := hstops.free rfl
    rw [Container.names_ofDeclarations, ← hname] at hfree
    rw [List.map_append]
    exact List.Nodup.append h.names_nodup (List.nodup_singleton _)
      (List.disjoint_singleton.mpr hfree)
  eventIds_lt := by
    refine List.pairwise_append.mpr ⟨h.eventIds_lt, List.pairwise_singleton _ _, ?_⟩
    intro d hd e he
    rw [List.mem_singleton.mp he]
    exact heventId d hd
  shapes_nodup := by
    rw [List.map_append]
    refine List.Nodup.append h.shapes_nodup (List.nodup_singleton _)
      (List.disjoint_singleton.mpr ?_)
    intro hmem
    obtain ⟨d, hd, hshape⟩ := List.mem_map.mp hmem
    exact h.shape_ne hstops d hd hshape
  tried := by
    intro d hd
    rw [List.map_append]
    rcases List.mem_append.mp hd with hd | hd
    · obtain ⟨k, hpos, hname, htried⟩ := h.tried d hd
      exact ⟨k, hpos, hname, fun i hi hlt => List.mem_append_left _ (htried i hi hlt)⟩
    · rw [List.mem_singleton.mp hd]
      refine ⟨n, hstops.pos, hname, ?_⟩
      intro i hi hlt
      have htaken := (hstops.passes i hi hlt).1
      rw [Container.names_ofDeclarations] at htaken
      exact List.mem_append_left _ htaken

/-- What a verdict appends keeps them apart. -/
theorem verdict (h : Minted ds) (options : MigrationOptions) (call : AdHocCall)
    (wish : MethodWish) : Minted (ds ++ (call.verdict options wish ds).minted?.toList) := by
  cases hminted : (call.verdict options wish ds).minted? with
  | none => rwa [Option.toList_none, List.append_nil]
  | some minted =>
      have heventId := AdHocCall.eventId_lt_of_minted? hminted
      obtain ⟨n, eventId, hstops, -, rfl⟩ := AdHocCall.exists_stopsAt_of_minted? hminted
      exact h.concat hstops rfl heventId

end Minted

namespace Migrator

theorem minted_replay (migrators : List Migrator) {s : Store} (hs : s.Consistent)
    (h : ∀ name, Minted (s.declarations name)) :
    ∀ name, Minted ((replay migrators s).2.declarations name) := by
  intro name
  exact replay_preserves (P := fun _ => Minted)
    (fun m _ wish _ _ hds => hds.verdict m.options m.call wish) hs (h name)

/-- **Migration keeps the methods of a container apart.**  Whatever migrators have
    filled the store, in each of its containers the names are distinct, the
    event ids increase, and the shapes are distinct. -/
theorem replay_keeps_methods_apart (migrators : List Migrator) (name : String)
    (entry : StoreEntry) (hentry : Store.entry? (replay migrators .empty).2 name = some entry) :
    (entry.container.methods.map Signature.name).Nodup ∧
      (entry.container.methods.map Signature.eventId).Pairwise (· < ·) ∧
      (entry.container.methods.map Signature.shape).Nodup := by
  have hempty := Store.Reachable.empty.consistent
  obtain ⟨ds, rfl⟩ := consistent_replay hempty migrators name entry hentry
  have h := minted_replay migrators hempty (fun _ => Minted.nil) name
  rw [Store.declarations_of_present hentry] at h
  show ((ds.map Declaration.signature).map _).Nodup ∧
    ((ds.map Declaration.signature).map _).Pairwise _ ∧
    ((ds.map Declaration.signature).map _).Nodup
  rw [List.map_map, List.map_map, List.map_map]
  exact ⟨h.names_nodup, List.pairwise_map.mpr h.eventIds_lt, h.shapes_nodup⟩

/-- A migrator of a call without template arguments. -/
def greeter (method template : String) (budget : Nat) : Migrator where
  table := .conventional
  options := { retryBudget := budget }
  call :=
    { method
      receiver := { text := "_logger", type? := some "ILogger" }
      arguments := [.ofText template] }

/-- The second `Hello` takes the name that the last template starts from; one of the
    greeters gives up, and one reuses a method. -/
def greeters : List Migrator :=
  [greeter "LogInformation" "Hello" 1, greeter "LogInformation" "Hello" 1,
    greeter "LogDebug" "Hello" 1, greeter "LogDebug" "Hello" 2, greeter "LogDebug" "Hello2" 1]

/-- Five greeters leave three methods, apart in their names, event ids and shapes. -/
theorem greeters_keep_methods_apart :
    ∃ entry, Store.entry? (replay greeters .empty).2 "Log" = some entry ∧
      entry.container.methods.map Signature.name = ["Hello", "Hello2", "Hello22"] ∧
      (entry.container.methods.map Signature.name).Nodup ∧
        (entry.container.methods.map Signature.eventId).Pairwise (· < ·) ∧
        (entry.container.methods.map Signature.shape).Nodup := by
  have hnames : (Store.entry? (replay greeters .empty).2 "Log").map
      (·.container.methods.map Signature.name) = some ["Hello", "Hello2", "Hello22"] := by
    decide +kernel
  obtain ⟨entry, hentry, hnames⟩ := Option.map_eq_some_iff.mp hnames
  exact ⟨entry, hentry, hnames, replay_keeps_methods_apart greeters "Log" entry hentry⟩

end Migrator

end StructuredLog
