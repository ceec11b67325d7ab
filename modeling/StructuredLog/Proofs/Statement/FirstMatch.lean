import Mathlib.Order.Bounds.Basic
import Mathlib.Order.Nat
import StructuredLog.Proofs.Generation.Diagnosis

/-! # First match — the place of an argument tells its role

    Roles are given out in one pass, which drops what has been found from what
    it looks for.  Said of all parameters at once, the exception is at the least
    place of an exception type, and the level is at the least place of a level
    type that is not the place of the exception (`allFit_assignRolesRest`).  One
    type may be both, so that the place of the exception has to be left out by
    its number.

    The first parameter is the logger and nothing else, whatever its type, so
    the places that count are those from 1 on (`roles_go_by_first_match`). -/

namespace StructuredLog

variable {system : TypeSystem} {seeksException seeksLevel seeksNext : Bool} {p : Parameter}
  {ps : List Parameter} {known : KnownType} {i : Nat}

/-! ## Places -/

/-- A place after the first is least exactly if the first one is none, and it is least
    among those after it. -/
theorem isLeast_succ_iff {places : Set Nat} :
    IsLeast places (i + 1) ↔ 0 ∉ places ∧ IsLeast {j | j + 1 ∈ places} i := by
  constructor
  · rintro ⟨hi, hleast⟩
    refine ⟨fun hzero => absurd (hleast hzero) (Nat.not_succ_le_zero i), hi, ?_⟩
    intro j hj
    exact Nat.le_of_succ_le_succ (hleast hj)
  · rintro ⟨hzero, hi, hleast⟩
    refine ⟨hi, ?_⟩
    intro j hj
    cases j with
    | zero => exact absurd hj hzero
    | succ j => exact Nat.succ_le_succ (hleast hj)

/-- The places of the parameters whose type converts to a known type. -/
def placesOf (system : TypeSystem) (ps : List Parameter) (known : KnownType) : Set Nat :=
  {i | ∃ p, ps[i]? = some p ∧ system.assignable p.type known = true}

theorem zero_mem_placesOf_cons :
    0 ∈ placesOf system (p :: ps) known ↔ system.assignable p.type known = true := by
  constructor
  · rintro ⟨q, hq, hknown⟩
    obtain rfl := Option.some.inj hq
    exact hknown
  · intro hknown
    exact ⟨p, rfl, hknown⟩

/-! ## What is looked for -/

/-- The places at which an exception can be found. -/
def exceptionPlaces (system : TypeSystem) (seeksException : Bool) (ps : List Parameter) : Set Nat :=
  {i | seeksException = true ∧ i ∈ placesOf system ps .exception}

/-- The places at which a level can be found. -/
def levelPlaces (system : TypeSystem) (seeksException seeksLevel : Bool) (ps : List Parameter) :
    Set Nat :=
  {i | seeksLevel = true ∧ i ∈ placesOf system ps .level ∧
    ¬IsLeast (exceptionPlaces system seeksException ps) i}

theorem zero_mem_exceptionPlaces_cons :
    0 ∈ exceptionPlaces system seeksException (p :: ps) ↔
      seeksException = true ∧ system.assignable p.type .exception = true :=
  and_congr_right fun _ => zero_mem_placesOf_cons

theorem zero_mem_levelPlaces_cons :
    0 ∈ levelPlaces system seeksException seeksLevel (p :: ps) ↔
      seeksLevel = true ∧ system.assignable p.type .level = true ∧
        0 ∉ exceptionPlaces system seeksException (p :: ps) :=
  and_congr_right fun _ => and_congr zero_mem_placesOf_cons (not_congr isLeast_bot_iff)

/-- The search for an exception goes on behind a parameter that is none. -/
theorem isLeast_exceptionPlaces_succ
    (hzero : 0 ∉ exceptionPlaces system seeksException (p :: ps)) (i : Nat) :
    IsLeast (exceptionPlaces system seeksException (p :: ps)) (i + 1) ↔
      IsLeast (exceptionPlaces system seeksException ps) i :=
  isLeast_succ_iff.trans (and_iff_right hzero)

/-- The search for an exception ends with the first one. -/
theorem isLeast_exceptionPlaces_succ_of_mem
    (hzero : 0 ∈ exceptionPlaces system seeksException (p :: ps)) (i : Nat) :
    IsLeast (exceptionPlaces system seeksException (p :: ps)) (i + 1) ↔
      IsLeast (exceptionPlaces system false ps) i :=
  iff_of_false (fun h => (isLeast_succ_iff.mp h).1 hzero) fun h => Bool.false_ne_true h.1.1

/-- The search for a level goes on behind a parameter that does not give it. -/
theorem isLeast_levelPlaces_succ
    (hzero : 0 ∉ levelPlaces system seeksException seeksLevel (p :: ps))
    (hexception : ∀ j, IsLeast (exceptionPlaces system seeksException (p :: ps)) (j + 1) ↔
      IsLeast (exceptionPlaces system seeksNext ps) j) (i : Nat) :
    IsLeast (levelPlaces system seeksException seeksLevel (p :: ps)) (i + 1) ↔
      IsLeast (levelPlaces system seeksNext seeksLevel ps) i := by
  have hshift : {j | j + 1 ∈ levelPlaces system seeksException seeksLevel (p :: ps)}
      = levelPlaces system seeksNext seeksLevel ps := by
    ext j
    exact and_congr_right fun _ => and_congr_right fun _ => not_congr (hexception j)
  rw [isLeast_succ_iff, and_iff_right hzero, hshift]

/-- The search for a level ends with the first one. -/
theorem isLeast_levelPlaces_succ_of_mem
    (hzero : 0 ∈ levelPlaces system seeksException seeksLevel (p :: ps)) (i : Nat) :
    IsLeast (levelPlaces system seeksException seeksLevel (p :: ps)) (i + 1) ↔
      IsLeast (levelPlaces system seeksNext false ps) i :=
  iff_of_false (fun h => (isLeast_succ_iff.mp h).1 hzero) fun h => Bool.false_ne_true h.1.1

/-! ## Roles by place -/

/-- The role at a place, given where the exception and the level can be found. -/
structure FitsPlace (exceptions levels : Set Nat) (i : Nat) (role : Role) : Prop where
  exception_iff : role = .exception ↔ IsLeast exceptions i
  level_iff : role = .level ↔ IsLeast levels i
  ne_loggerHandle : role ≠ .loggerHandle

/-- Every argument has the role of its place. -/
def AllFit (exceptions levels : Set Nat) (as : List Argument) : Prop :=
  ∀ (i : Nat) (a : Argument), as[i]? = some a → FitsPlace exceptions levels i a.role

theorem AllFit.cons {exceptions exceptions' levels levels' : Set Nat} {a : Argument}
    {as : List Argument} (ha : FitsPlace exceptions levels 0 a.role)
    (hexceptions : ∀ i, IsLeast exceptions (i + 1) ↔ IsLeast exceptions' i)
    (hlevels : ∀ i, IsLeast levels (i + 1) ↔ IsLeast levels' i)
    (has : AllFit exceptions' levels' as) : AllFit exceptions levels (a :: as) := by
  intro i b hb
  cases i with
  | zero =>
      obtain rfl := Option.some.inj hb
      exact ha
  | succ i =>
      obtain ⟨hexception, hlevel, hlogger⟩ := has i b hb
      exact ⟨hexception.trans (hexceptions i).symm, hlevel.trans (hlevels i).symm, hlogger⟩

/-- **The roles go by the first match** for each thing that is looked for. -/
theorem allFit_assignRolesRest (system : TypeSystem) (seeksException seeksLevel : Bool)
    (ps : List Parameter) :
    AllFit (exceptionPlaces system seeksException ps)
      (levelPlaces system seeksException seeksLevel ps)
      (assignRolesRest system seeksException seeksLevel ps) := by
  induction ps generalizing seeksException seeksLevel with
  | nil => exact fun _ _ h => nomatch h
  | cons p ps ih =>
      by_cases hexception : 0 ∈ exceptionPlaces system seeksException (p :: ps)
      · obtain ⟨rfl, hp⟩ := zero_mem_exceptionPlaces_cons.mp hexception
        have hlevel : 0 ∉ levelPlaces system true seeksLevel (p :: ps) :=
          fun hzero => (zero_mem_levelPlaces_cons.mp hzero).2.2 hexception
        have hlater := isLeast_exceptionPlaces_succ_of_mem hexception
        rw [assignRolesRest_cons_exception hp]
        refine .cons ⟨?_, ?_, Role.noConfusion⟩ hlater (isLeast_levelPlaces_succ hlevel hlater)
          (ih false seeksLevel)
        · exact iff_of_true rfl (isLeast_bot_iff.mpr hexception)
        · exact iff_of_false Role.noConfusion fun h => hlevel h.1
      have hnot : seeksException = true → system.assignable p.type .exception = false :=
        fun hseeks => Bool.eq_false_iff.mpr fun hp =>
          hexception (zero_mem_exceptionPlaces_cons.mpr ⟨hseeks, hp⟩)
      have hlater := isLeast_exceptionPlaces_succ hexception
      have hfirst : ¬IsLeast (exceptionPlaces system seeksException (p :: ps)) 0 :=
        fun h => hexception h.1
      by_cases hlevel : 0 ∈ levelPlaces system seeksException seeksLevel (p :: ps)
      · obtain ⟨rfl, hp, -⟩ := zero_mem_levelPlaces_cons.mp hlevel
        rw [assignRolesRest_cons_level hnot hp]
        refine .cons ⟨?_, ?_, Role.noConfusion⟩ hlater (isLeast_levelPlaces_succ_of_mem hlevel)
          (ih seeksException false)
        · exact iff_of_false Role.noConfusion hfirst
        · exact iff_of_true rfl (isLeast_bot_iff.mpr hlevel)
      · have hnone : seeksLevel = true → system.assignable p.type .level = false :=
          fun hseeks => Bool.eq_false_iff.mpr fun hp =>
            hlevel (zero_mem_levelPlaces_cons.mpr ⟨hseeks, hp, hexception⟩)
        rw [assignRolesRest_cons_regular hnot hnone]
        refine .cons ⟨?_, ?_, Role.noConfusion⟩ hlater (isLeast_levelPlaces_succ hlevel hlater)
          (ih seeksException seeksLevel)
        · exact iff_of_false Role.noConfusion hfirst
        · exact iff_of_false Role.noConfusion fun h => hlevel h.1

/-! ## All parameters -/

/-- The places of the exception types behind the logger. -/
def exceptionCandidates (system : TypeSystem) (ps : List Parameter) : Set Nat :=
  {i | 1 ≤ i ∧ i ∈ placesOf system ps .exception}

/-- The places of the level types behind the logger, that of the exception aside; there
    are none where the level is constant. -/
def levelCandidates (system : TypeSystem) (level? : Option Level) (ps : List Parameter) : Set Nat :=
  {i | level? = none ∧ 1 ≤ i ∧ i ∈ placesOf system ps .level ∧
    ¬IsLeast (exceptionCandidates system ps) i}

theorem isLeast_exceptionCandidates_succ :
    IsLeast (exceptionCandidates system (p :: ps)) (i + 1) ↔
      IsLeast (exceptionPlaces system true ps) i := by
  have hshift : {j | j + 1 ∈ exceptionCandidates system (p :: ps)}
      = exceptionPlaces system true ps := by
    ext j
    exact and_congr_left fun _ => iff_of_true (Nat.le_add_left 1 j) rfl
  rw [isLeast_succ_iff, and_iff_right fun hzero => Nat.not_succ_le_zero 0 hzero.1, hshift]

/-- Behind the first parameter, the first candidate for the level is sought with an exception
    still to come. -/
theorem isLeast_levelCandidates_succ {level? : Option Level} :
    IsLeast (levelCandidates system level? (p :: ps)) (i + 1) ↔
      IsLeast (levelPlaces system true level?.isNone ps) i := by
  have hshift : {j | j + 1 ∈ levelCandidates system level? (p :: ps)}
      = levelPlaces system true level?.isNone ps := by
    ext j
    refine and_congr Option.isNone_iff_eq_none.symm ?_
    refine (and_iff_right (Nat.le_add_left 1 j)).trans ?_
    exact and_congr_right fun _ => not_congr isLeast_exceptionCandidates_succ
  rw [isLeast_succ_iff, and_iff_right fun hzero => Nat.not_succ_le_zero 0 hzero.2.1, hshift]

/-- **Each role goes to the first candidate for it**, and the logger's to the first parameter. -/
theorem role_assignRoles {level? : Option Level} {a : Argument}
    (h : (assignRoles system level? ps)[i]? = some a) :
    (a.role = .loggerHandle ↔ i = 0) ∧
      (a.role = .exception ↔ IsLeast (exceptionCandidates system ps) i) ∧
      (a.role = .level ↔ IsLeast (levelCandidates system level? ps) i) := by
  cases ps with
  | nil => exact nomatch h
  | cons p ps =>
      cases i with
      | zero =>
          obtain rfl := Option.some.inj h
          refine ⟨iff_of_true rfl rfl, iff_of_false Role.noConfusion ?_,
            iff_of_false Role.noConfusion ?_⟩
          · exact fun hleast => Nat.not_succ_le_zero 0 hleast.1.1
          · exact fun hleast => Nat.not_succ_le_zero 0 hleast.1.2.1
      | succ i =>
          obtain ⟨hexception, hlevel, hlogger⟩ := allFit_assignRolesRest system _ _ ps i a h
          exact ⟨iff_of_false hlogger (Nat.succ_ne_zero i),
            hexception.trans isLeast_exceptionCandidates_succ.symm,
            hlevel.trans isLeast_levelCandidates_succ.symm⟩

/-- A role is given out exactly if there is a place for it, when it goes to the least. -/
theorem exists_role_iff {as : List Argument} {role : Role} {places : Set Nat}
    (hrole : ∀ i a, as[i]? = some a → (a.role = role ↔ IsLeast places i))
    (hplaces : ∀ i ∈ places, i < as.length) :
    (∃ a ∈ as, a.role = role) ↔ places.Nonempty := by
  classical
  constructor
  · rintro ⟨a, ha, har⟩
    obtain ⟨i, hi⟩ := List.mem_iff_getElem?.mp ha
    exact ⟨i, ((hrole i a hi).mp har).1⟩
  · intro hnonempty
    have hleast := hnonempty.isLeast_natFind
    have hget := List.getElem?_eq_getElem (hplaces _ hleast.1)
    exact ⟨_, List.mem_of_getElem? hget, (hrole _ _ hget).mpr hleast⟩

theorem lt_length_of_mem_placesOf (h : i ∈ placesOf system ps known) : i < ps.length := by
  obtain ⟨p, hp, -⟩ := h
  exact (List.getElem?_eq_some_iff.mp hp).1

/-- **Roles go by the first match.**  The arguments are the parameters in order.  The
    first one is the logger; of the others, the exception is the first of an exception
    type, and the level is the first of a level type that is not the exception, unless the
    level is constant; all else is regular.  Each regular timestamp draws a warning, in
    order. -/
theorem roles_go_by_first_match (system : TypeSystem) (level? : Option Level)
    (ps : List Parameter) :
    let as := assignRoles system level? ps
    as.map (fun a => (a.name, a.type, a.span)) = ps.map (fun p => (p.name, p.type, p.span)) ∧
      -- the role of each argument
      (∀ (i : Nat) (a : Argument), as[i]? = some a →
        (a.role = .loggerHandle ↔ i = 0) ∧
        (a.role = .exception ↔ IsLeast (exceptionCandidates system ps) i) ∧
        (a.role = .level ↔ IsLeast (levelCandidates system level? ps) i) ∧
        (a.role = .regular ↔ i ≠ 0 ∧ ¬IsLeast (exceptionCandidates system ps) i ∧
          ¬IsLeast (levelCandidates system level? ps) i)) ∧
      -- the roles that are there
      ((∃ a ∈ as, a.role = .exception) ↔ (exceptionCandidates system ps).Nonempty) ∧
      ((∃ a ∈ as, a.role = .level) ↔ (levelCandidates system level? ps).Nonempty) ∧
      -- the warnings
      List.Forall₂
        (fun a e => e.code = .timestampArgument ∧ e.primarySpan? = some a.span ∧
          e.message = "parameter `" ++ a.name ++ "` of type `" ++ a.type
            ++ "` renders differently per host culture")
        (as.filter fun a => a.role = .regular ∧ system.assignable a.type .timestamp = true)
        (timestampWarnings system as) := by
  have hforall := forall₂_assignRoles system level? ps
  have hlength : (assignRoles system level? ps).length = ps.length := hforall.length_eq
  refine ⟨?_, ?_, ?_, ?_, ?_⟩
  · rw [← List.forall₂_eq_eq_eq, List.forall₂_map_left_iff, List.forall₂_map_right_iff]
    refine hforall.imp ?_
    rintro a p ⟨role, rfl⟩
    rfl
  · intro i a ha
    obtain ⟨hlogger, hexception, hlevel⟩ := role_assignRoles ha
    refine ⟨hlogger, hexception, hlevel, ?_⟩
    rw [ne_eq, ← hlogger, ← hexception, ← hlevel]
    cases a.role <;> decide
  · refine exists_role_iff (fun i a ha => (role_assignRoles ha).2.1) ?_
    intro i hi
    exact hlength ▸ lt_length_of_mem_placesOf hi.2
  · refine exists_role_iff (fun i a ha => (role_assignRoles ha).2.2) ?_
    intro i hi
    exact hlength ▸ lt_length_of_mem_placesOf hi.2.2.1
  · rw [timestampWarnings, List.forall₂_map_right_iff, regularArguments, List.filter_filter]
    have hcondition : (fun a : Argument => decide (a.role = .regular ∧
        system.assignable a.type .timestamp = true))
          = fun a => system.assignable a.type .timestamp && a.isRegular := by
      funext a
      rw [Bool.decide_and, Bool.decide_eq_true, Bool.and_comm]
      rfl
    rw [hcondition, List.forall₂_same]
    exact fun a _ => ⟨rfl, rfl, rfl⟩

/-- Of two faults, which are exceptions and levels alike, the first is the exception and
    leaves the level to the second. -/
theorem roles_go_by_first_match_faults :
    (assignRoles TypeFacts.faulty.system none (faultMethod ["cause", "severity"]).parameters)[2]?
        = some ⟨"severity", "Fault", .level, .nowhere⟩ ∧
      IsLeast (levelCandidates TypeFacts.faulty.system none
        (faultMethod ["cause", "severity"]).parameters) 2 ∧
      ¬IsLeast (exceptionCandidates TypeFacts.faulty.system
        (faultMethod ["cause", "severity"]).parameters) 2 := by
  have hsecond : (assignRoles TypeFacts.faulty.system none
      (faultMethod ["cause", "severity"]).parameters)[2]?
        = some ⟨"severity", "Fault", .level, .nowhere⟩ := by
    decide
  obtain ⟨-, hexception, hlevel, -⟩ := (roles_go_by_first_match _ _ _).2.1 2 _ hsecond
  exact ⟨hsecond, hlevel.mp rfl, fun hleast => Role.noConfusion (hexception.mpr hleast)⟩

end StructuredLog
