import StructuredLog.Proofs.Migration.Settling

/-! # Search — trying names one after another

    The search for a name counts its tries in 32 bits and knows no bound of its
    own (`Container.Search`).  It ends all the same: every name that it passes
    over has methods, and the names are distinct, so it stops at the latest one
    try after there are no more methods (`Container.StopsAt.le_length`).  A
    container of fewer than 2³² − 1 methods thus leaves the counter room, and the
    search ends where the container settles (`Container.search_iff_stopsAt`).

    What it ends with is the resolution of the call: the first method of the
    name and the wanted shape, or a free name with the next event id
    (`Container.search_resolves`). -/

namespace StructuredLog

namespace Container

variable {c : Container} {wanted : WantedMethod} {found : Option Signature}

/-! ## The search -/

/-- The search from one number on stops at another, for a method of the wanted shape or
    at a free name.  It goes nowhere once the counter has no room for the next
    number. -/
inductive Search (c : Container) (wanted : WantedMethod) :
    UInt32 → UInt32 → Option Signature → Prop where
  | reuses {n : UInt32} {method : Signature}
      (hfound : c.ofShape? (wanted.nthName n.toNat) wanted.shape = some method) :
      Search c wanted n n (some method)
  | mints {n : UInt32} (hnone : c.ofShape? (wanted.nthName n.toNat) wanted.shape = none)
      (hfree : c.named (wanted.nthName n.toNat) = []) : Search c wanted n n none
  | passes {n stop : UInt32} {found : Option Signature}
      (hnone : c.ofShape? (wanted.nthName n.toNat) wanted.shape = none)
      (htaken : c.named (wanted.nthName n.toNat) ≠ []) (hroom : n.toNat + 1 < UInt32.size)
      (rest : Search c wanted (n + 1) stop found) : Search c wanted n stop found

theorem toNat_add_one {n : UInt32} (hroom : n.toNat + 1 < UInt32.size) :
    (n + 1).toNat = n.toNat + 1 := by
  rw [UInt32.toNat_add, UInt32.toNat_one]
  exact Nat.mod_eq_of_lt hroom

theorem mem_names_iff_named_ne_nil {name : String} : name ∈ c.names ↔ c.named name ≠ [] := by
  rw [ne_eq, named_eq_nil_iff, not_not]

/-- Where the search ends, the container stops. -/
theorem Search.stopsAt {n stop : UInt32} (h : c.Search wanted n stop found) (hpos : 1 ≤ n.toNat)
    (hpasses : c.PassesOver wanted n.toNat) : c.StopsAt wanted stop.toNat found := by
  induction h with
  | reuses hfound => exact ⟨hpos, hpasses, hfound, fun hnone => nomatch hnone⟩
  | mints hnone hfree => exact ⟨hpos, hpasses, hnone, fun _ => named_eq_nil_iff.mp hfree⟩
  | passes hnone htaken hroom rest ih =>
      have htaken := mem_names_iff_named_ne_nil.mpr htaken
      rw [toNat_add_one hroom] at ih
      exact ih (Nat.le_succ_of_le hpos) (hpasses.succ htaken hnone)

/-- Where the container stops, the search ends, if the counter reaches so far. -/
theorem StopsAt.search {stop : UInt32} (h : c.StopsAt wanted stop.toNat found) (tries : Nat)
    {n : UInt32} (hpos : 1 ≤ n.toNat) (htries : n.toNat + tries = stop.toNat) :
    c.Search wanted n stop found := by
  induction tries generalizing n with
  | zero =>
      obtain rfl : n = stop := UInt32.toNat_inj.mp htries
      have hfound := h.found_eq
      cases found with
      | some method => exact .reuses hfound
      | none => exact .mints hfound (named_eq_nil_iff.mpr (h.free rfl))
  | succ tries ih =>
      have hbound := stop.toNat_lt_size
      have hroom : n.toNat + 1 < UInt32.size := by omega
      obtain ⟨htaken, hnone⟩ := h.passes n.toNat hpos (by omega)
      refine .passes hnone (mem_names_iff_named_ne_nil.mp htaken) hroom (ih ?_ ?_)
      · rw [toNat_add_one hroom]
        exact Nat.le_add_left 1 _
      · rw [toNat_add_one hroom]
        omega

/-- **The search ends where the container stops.** -/
theorem search_iff_stopsAt {stop : UInt32} :
    c.Search wanted 1 stop found ↔ c.StopsAt wanted stop.toNat found := by
  constructor
  · intro h
    refine h.stopsAt (Nat.le_refl 1) ?_
    intro i hi hlt
    exact absurd hi (Nat.not_le.mpr hlt)
  · intro h
    exact h.search (stop.toNat - 1) (Nat.le_refl 1) (Nat.add_sub_of_le h.pos)

/-- **No more names are tried than there are methods, and one.** -/
theorem StopsAt.le_length {n : Nat} (h : c.StopsAt wanted n found) : n ≤ c.methods.length + 1 := by
  by_contra hlt
  -- the name before the last would have been free already
  have hpasses : c.PassesOver wanted (n - 1) := fun i hi hlt => h.passes i hi (by omega)
  exact hpasses.not_mem_names (by omega) (h.passes (n - 1) (by omega) (by omega)).1

/-! ## Event ids -/

/-- The event id of the next method: the first one in a container without methods, and
    otherwise the greatest in use plus one, but not below the first one. -/
structure IsNextEventId (c : Container) (firstEventId id : Int32) : Prop where
  eq_first : c.methods = [] → id = firstEventId
  toInt_eq : ∀ m ∈ c.methods, (∀ other ∈ c.methods, other.eventId ≤ m.eventId) →
    id.toInt = max firstEventId.toInt (m.eventId.toInt + 1)
  lt : ∀ m ∈ c.methods, m.eventId < id

theorem toInt_max (a b : Int32) : (max a b).toInt = max a.toInt b.toInt := by
  show (if a ≤ b then b else a).toInt = _
  by_cases h : a ≤ b
  · rw [if_pos h, Int.max_eq_right (Int32.le_iff_toInt_le.mp h)]
  · have hba := Int32.le_of_lt (Int32.not_le.mp h)
    rw [if_neg h, Int.max_eq_left (Int32.le_iff_toInt_le.mp hba)]

/-- The next event id follows the greatest one in use, and is the first one where there is
    none. -/
theorem isNextEventId {firstEventId id : Int32} (h : c.nextEventId? firstEventId = some id) :
    c.IsNextEventId firstEventId id where
  eq_first := by
    intro hnil
    have hmax : c.maxEventId? = none := by
      rw [maxEventId?, hnil]
      rfl
    rw [nextEventId?, hmax] at h
    exact (Option.some.inj h).symm
  toInt_eq := by
    intro m hm hgreatest
    have hmax : c.maxEventId? = some m.eventId := by
      refine List.max?_eq_some_iff.mpr ⟨List.mem_map_of_mem hm, ?_⟩
      intro id hid
      obtain ⟨other, hother, rfl⟩ := List.mem_map.mp hid
      exact hgreatest other hother
    have hlast : m.eventId ≠ lastEventId := by
      rintro hlast
      have hmem : m.eventId ∈ c.methods.map Signature.eventId := List.mem_map_of_mem hm
      rw [hlast] at hmem
      rw [nextEventId?_eq_none_iff.mpr hmem] at h
      injection h
    rw [nextEventId?, hmax] at h
    simp only [if_neg hlast, Option.some.injEq] at h
    rw [← h, toInt_max, toInt_add_one_of_ne_last hlast, Int.max_comm]
  lt := lt_of_nextEventId?_eq_some h

/-! ## Resolutions -/

/-- The method that a call gets, or why it gets none. -/
def resolve (c : Container) (wanted : WantedMethod) (firstEventId : Int32) :
    Except MigrationFailure Resolution :=
  match c.methodFor? wanted firstEventId with
  | some resolution => .ok resolution
  | none => .error (.eventIdsExhausted c.name)

/-- A migration fails for the reason that its call gets no method. -/
theorem settleIn_of_resolve_eq_error {options : MigrationOptions} {call : AdHocCall}
    {wish : MethodWish} {snapshot : Snapshot} {e : MigrationFailure}
    (h : snapshot.container.resolve wish.wanted options.firstEventId = .error e)
    (again : Session MigrationResult) :
    call.settleIn options wish again snapshot = .done (.error e) := by
  rw [resolve] at h
  rw [AdHocCall.settleIn]
  cases hmethod : snapshot.container.methodFor? wish.wanted options.firstEventId with
  | some resolution =>
      rw [hmethod] at h
      injection h
  | none =>
      rw [hmethod] at h
      rw [Except.error.inj h]

theorem ofShape?_eq_find? (c : Container) (name : String) (shape : Shape) :
    c.ofShape? name shape = c.methods.find? fun m => m.name == name && m.shape == shape := by
  rw [ofShape?, named, List.find?_filter]
  simp only [Bool.decide_and, Bool.decide_eq_true]

theorem ofShape?_eq_none_iff {name : String} {shape : Shape} :
    c.ofShape? name shape = none ↔ ∀ m ∈ c.methods, m.name = name → m.shape ≠ shape := by
  rw [ofShape?_eq_find?, List.find?_eq_none]
  refine forall₂_congr fun m _ => ?_
  rw [Bool.and_eq_true, beq_iff_eq, beq_iff_eq, not_and]

/-- The method is the first one of the name and the shape. -/
def IsFirstOf (c : Container) (name : String) (shape : Shape) (method : Signature) : Prop :=
  ∃ before after, c.methods = before ++ method :: after ∧
    method.name = name ∧ method.shape = shape ∧ ∀ m ∈ before, m.name = name → m.shape ≠ shape

/-- A search by name and shape finds the first method that has both. -/
theorem isFirstOf_of_ofShape? {name : String} {shape : Shape} {method : Signature}
    (h : c.ofShape? name shape = some method) : c.IsFirstOf name shape method := by
  rw [ofShape?_eq_find?, List.find?_eq_some_iff_append] at h
  obtain ⟨hmatches, before, after, hmethods, hbefore⟩ := h
  rw [Bool.and_eq_true, beq_iff_eq, beq_iff_eq] at hmatches
  refine ⟨before, after, hmethods, hmatches.1, hmatches.2, ?_⟩
  intro m hm hname hshape
  have hnot := hbefore m hm
  rw [Bool.not_eq_true', Bool.and_eq_false_iff, beq_eq_false_iff_ne, beq_eq_false_iff_ne] at hnot
  rcases hnot with hnot | hnot
  · exact hnot hname
  · exact hnot hshape

theorem StopsAt.resolve_of_some {n : Nat} {method : Signature}
    (h : c.StopsAt wanted n (some method)) (firstEventId : Int32) :
    c.resolve wanted firstEventId = .ok ⟨wanted.nthName n, true, method.eventId⟩ := by
  rw [resolve, h.methodFor?_of_some]

/-- A free name is minted with the next event id, and there is none exactly if the last
    one is in use. -/
theorem StopsAt.resolve_of_none {n : Nat} (h : c.StopsAt wanted n none) (firstEventId : Int32) :
    (∃ id, c.resolve wanted firstEventId = .ok ⟨wanted.nthName n, false, id⟩ ∧
        c.IsNextEventId firstEventId id ∧ ∀ m ∈ c.methods, m.eventId ≠ lastEventId) ∨
      c.resolve wanted firstEventId = .error (.eventIdsExhausted c.name) ∧
        ∃ m ∈ c.methods, m.eventId = lastEventId := by
  rw [resolve, h.methodFor?_of_none]
  have hnone : c.nextEventId? firstEventId = none ↔ ∃ m ∈ c.methods, m.eventId = lastEventId :=
    nextEventId?_eq_none_iff.trans List.mem_map
  cases hid : c.nextEventId? firstEventId with
  | some id =>
      refine .inl ⟨id, rfl, isNextEventId hid, ?_⟩
      intro m hm hlast
      exact nomatch (hnone.mpr ⟨m, hm, hlast⟩).symm.trans hid
  | none => exact .inr ⟨rfl, hnone.mp hid⟩

/-- A call gets no method exactly if it needs a new one and the last event id is in use. -/
theorem StopsAt.resolve_eq_error_iff {n : Nat} (h : c.StopsAt wanted n found)
    (firstEventId : Int32) (e : MigrationFailure) :
    c.resolve wanted firstEventId = .error e ↔
      e = .eventIdsExhausted c.name ∧ found = none ∧ ∃ m ∈ c.methods, m.eventId = lastEventId := by
  cases found with
  | some method =>
      rw [h.resolve_of_some]
      exact iff_of_false (nomatch ·) fun hfailed => nomatch hfailed.2.1
  | none =>
      rcases h.resolve_of_none firstEventId with ⟨id, hok, -, hfree⟩ | ⟨herror, hlast⟩
      · rw [hok]
        refine iff_of_false (nomatch ·) ?_
        rintro ⟨-, -, m, hm, hlast⟩
        exact hfree m hm hlast
      · rw [herror, Except.error.injEq]
        exact ⟨fun heq => ⟨heq.symm, rfl, hlast⟩, fun hfailed => hfailed.1.symm⟩

/-- **The search for a name ends, and resolves the call.**  It stops at one of the names
    `Base`, `Base2`, `Base3`, …, and each one before that has methods, but none of the
    wanted shape.  A method that is reused is the first of the name and the shape;
    one that is minted gets a name without methods and the next event id.  There is
    no resolution exactly when a method is to be minted and the last event id is in
    use. -/
theorem search_resolves (c : Container) (wanted : WantedMethod) (firstEventId : Int32)
    (hlength : c.methods.length < UInt32.size - 1) :
    ∃ (n : UInt32) (found : Option Signature),
      -- the search ends, in one way
      (∀ stop found', c.Search wanted 1 stop found' ↔ stop = n ∧ found' = found) ∧
      -- the name that it stops at, and those before
      (n = 1 ∧ wanted.nthName n.toNat = wanted.baseName ∨
        2 ≤ n.toNat ∧ wanted.nthName n.toNat = wanted.baseName ++ toString n.toNat) ∧
      (∀ i, 1 ≤ i → i < n.toNat →
        (∃ m ∈ c.methods, m.name = wanted.nthName i) ∧
          ∀ m ∈ c.methods, m.name = wanted.nthName i → m.shape ≠ wanted.shape) ∧
      -- what it comes to
      (∀ method, found = some method →
        c.IsFirstOf (wanted.nthName n.toNat) wanted.shape method ∧
          c.resolve wanted firstEventId = .ok ⟨wanted.nthName n.toNat, true, method.eventId⟩) ∧
      (found = none →
        (∀ m ∈ c.methods, m.name ≠ wanted.nthName n.toNat) ∧
          ∀ resolution, c.resolve wanted firstEventId = .ok resolution →
            resolution = ⟨wanted.nthName n.toNat, false, resolution.eventId⟩ ∧
              c.IsNextEventId firstEventId resolution.eventId) ∧
      (∀ e, c.resolve wanted firstEventId = .error e ↔
        e = .eventIdsExhausted c.name ∧ found = none ∧
          ∃ m ∈ c.methods, m.eventId = lastEventId) := by
  obtain ⟨n, found, hstops⟩ := c.exists_stopsAt wanted
  have hle := hstops.le_length
  -- the counter reaches the number
  obtain ⟨stop, rfl⟩ : ∃ stop : UInt32, stop.toNat = n :=
    ⟨UInt32.ofNat n, UInt32.toNat_ofNat_of_lt' (by omega)⟩
  refine ⟨stop, found, ?_, ?_, ?_, ?_, ?_, hstops.resolve_eq_error_iff firstEventId⟩
  · intro stop' found'
    rw [search_iff_stopsAt]
    constructor
    · intro hstops'
      have hstop := hstops'.unique hstops
      refine ⟨UInt32.toNat_inj.mp hstop, ?_⟩
      exact hstops'.found_eq.symm.trans (hstop ▸ hstops.found_eq)
    · rintro ⟨rfl, rfl⟩
      exact hstops
  · rcases Nat.eq_or_lt_of_le hstops.pos with hone | hlt
    · exact .inl ⟨UInt32.toNat_inj.mp hone.symm, WantedMethod.nthName_of_le (Nat.le_of_eq hone.symm)⟩
    · exact .inr ⟨hlt, WantedMethod.nthName_of_lt hlt⟩
  · intro i hpos hlt
    obtain ⟨htaken, hnone⟩ := hstops.passes i hpos hlt
    exact ⟨List.mem_map.mp htaken, ofShape?_eq_none_iff.mp hnone⟩
  · rintro method rfl
    exact ⟨isFirstOf_of_ofShape? hstops.found_eq, hstops.resolve_of_some firstEventId⟩
  · rintro rfl
    refine ⟨fun m hm hname => hstops.free rfl (List.mem_map.mpr ⟨m, hm, hname⟩), ?_⟩
    intro resolution hok
    rcases hstops.resolve_of_none firstEventId with ⟨id, hok', hnext, -⟩ | ⟨herror, -⟩
    · obtain rfl := Except.ok.inj (hok.symm.trans hok')
      exact ⟨rfl, hnext⟩
    · exact nomatch hok.symm.trans herror

/-- Two methods of the name `Hello`, the second under a suffix. -/
def twoHellos : Container where
  name := "Log"
  methods :=
    [⟨"Hello", ⟨["ILogger"], some .debug, "Hello"⟩, 3⟩,
      ⟨"Hello2", ⟨["ILogger"], some .error, "Hello"⟩, 7⟩]

/-- A third `Hello` gets the next suffix and the next event id. -/
theorem search_resolves_third_hello :
    twoHellos.methods.length < UInt32.size - 1 ∧
      twoHellos.resolve ⟨"Hello", ["ILogger"], some .warning, "Hello"⟩ 0
        = .ok ⟨"Hello3", false, 8⟩ ∧
      ∃ n found, ∀ stop found',
        twoHellos.Search ⟨"Hello", ["ILogger"], some .warning, "Hello"⟩ 1 stop found'
          ↔ stop = n ∧ found' = found := by
  have hlength : twoHellos.methods.length < UInt32.size - 1 := by decide
  obtain ⟨n, found, hends, -⟩ :=
    search_resolves twoHellos ⟨"Hello", ["ILogger"], some .warning, "Hello"⟩ 0 hlength
  exact ⟨hlength, by decide +kernel, n, found, hends⟩

end Container

end StructuredLog
