import Mathlib.Data.List.Forall2
import StructuredLog.Statement.Argument

/-! # Roles — how the generator sorts parameters

    The generator goes through the parameters once, and takes the first
    exception and the first level that it meets out of the regular ones.  So
    all parameters are regular exactly when nothing that is looked for is among
    them, and their number alone tells this
    (`length_regularArguments_eq_iff`); and a parameter of a level type gives the
    level unless it was taken for the exception
    (`exists_level_assignRolesRest_iff`). -/

namespace StructuredLog

variable {system : TypeSystem} {seeksException seeksLevel : Bool} {p : Parameter}
  {ps : List Parameter}

/-! ## One parameter -/

theorem assignRolesRest_cons_exception (h : system.assignable p.type .exception = true) :
    assignRolesRest system true seeksLevel (p :: ps)
      = p.inRole .exception :: assignRolesRest system false seeksLevel ps := by
  rw [assignRolesRest, h, Bool.and_self, if_pos rfl]

theorem assignRolesRest_cons_level
    (hnot : seeksException = true → system.assignable p.type .exception = false)
    (h : system.assignable p.type .level = true) :
    assignRolesRest system seeksException true (p :: ps)
      = p.inRole .level :: assignRolesRest system seeksException false ps := by
  rw [assignRolesRest, Bool.and_eq_false_imp.mpr hnot, h, if_neg Bool.false_ne_true, Bool.and_self,
    if_pos rfl]

theorem assignRolesRest_cons_regular
    (hexception : seeksException = true → system.assignable p.type .exception = false)
    (hlevel : seeksLevel = true → system.assignable p.type .level = false) :
    assignRolesRest system seeksException seeksLevel (p :: ps)
      = p.inRole .regular :: assignRolesRest system seeksException seeksLevel ps := by
  rw [assignRolesRest, Bool.and_eq_false_imp.mpr hexception, Bool.and_eq_false_imp.mpr hlevel,
    if_neg Bool.false_ne_true, if_neg Bool.false_ne_true]

/-- A parameter is special, or it is not what is looked for. -/
theorem assignRolesRest_cons_cases (system : TypeSystem) (seeksException seeksLevel : Bool)
    (p : Parameter) (ps : List Parameter) :
    (∃ (role : Role) (b c : Bool), role ≠ .regular ∧
        assignRolesRest system seeksException seeksLevel (p :: ps)
          = p.inRole role :: assignRolesRest system b c ps) ∨
      (seeksException = true → system.assignable p.type .exception = false) ∧
        (seeksLevel = true → system.assignable p.type .level = false) := by
  cases hexception : seeksException && system.assignable p.type .exception with
  | true =>
      obtain ⟨rfl, hp⟩ := Bool.and_eq_true_iff.mp hexception
      exact .inl ⟨.exception, _, _, by decide, assignRolesRest_cons_exception hp⟩
  | false =>
      rw [Bool.and_eq_false_imp] at hexception
      cases hlevel : seeksLevel && system.assignable p.type .level with
      | true =>
          obtain ⟨rfl, hp⟩ := Bool.and_eq_true_iff.mp hlevel
          exact .inl ⟨.level, _, _, by decide, assignRolesRest_cons_level hexception hp⟩
      | false => exact .inr ⟨hexception, Bool.and_eq_false_imp.mp hlevel⟩

theorem regularArguments_cons_regular (p : Parameter) (as : List Argument) :
    regularArguments (p.inRole .regular :: as) = p.inRole .regular :: regularArguments as := rfl

theorem regularArguments_cons_of_ne {role : Role} (h : role ≠ .regular) (p : Parameter)
    (as : List Argument) : regularArguments (p.inRole role :: as) = regularArguments as :=
  List.filter_cons_of_neg fun hregular => h (of_decide_eq_true hregular)

/-- The arguments are the parameters, each in some role. -/
theorem forall₂_assignRolesRest (system : TypeSystem) (seeksException seeksLevel : Bool)
    (ps : List Parameter) :
    List.Forall₂ (fun a p => ∃ role, a = p.inRole role)
      (assignRolesRest system seeksException seeksLevel ps) ps := by
  induction ps generalizing seeksException seeksLevel with
  | nil => exact .nil
  | cons p ps ih =>
      rcases assignRolesRest_cons_cases system seeksException seeksLevel p ps
        with ⟨role, b, c, -, hcons⟩ | ⟨hexception, hlevel⟩
      · rw [hcons]
        exact .cons ⟨role, rfl⟩ (ih b c)
      · rw [assignRolesRest_cons_regular hexception hlevel]
        exact .cons ⟨.regular, rfl⟩ (ih _ _)

theorem forall₂_assignRoles (system : TypeSystem) (level? : Option Level) (ps : List Parameter) :
    List.Forall₂ (fun a p => ∃ role, a = p.inRole role) (assignRoles system level? ps) ps := by
  cases ps with
  | nil => exact .nil
  | cons p ps => exact .cons ⟨_, rfl⟩ (forall₂_assignRolesRest system _ _ ps)

/-! ## All of them -/

theorem regularArguments_map_regular (ps : List Parameter) :
    regularArguments (ps.map (·.inRole .regular)) = ps.map (·.inRole .regular) := by
  induction ps with
  | nil => rfl
  | cons p ps ih => rw [List.map_cons, regularArguments_cons_regular, ih]

/-- Parameters are regular when nothing that is looked for is among them. -/
theorem assignRolesRest_eq_map_regular
    (hexception : seeksException = true → ∀ p ∈ ps, system.assignable p.type .exception = false)
    (hlevel : seeksLevel = true → ∀ p ∈ ps, system.assignable p.type .level = false) :
    assignRolesRest system seeksException seeksLevel ps = ps.map (·.inRole .regular) := by
  induction ps with
  | nil => rfl
  | cons p ps ih =>
      rw [assignRolesRest_cons_regular, ih, List.map_cons]
      · exact fun hseeks q hq => hexception hseeks q (List.mem_cons_of_mem p hq)
      · exact fun hseeks q hq => hlevel hseeks q (List.mem_cons_of_mem p hq)
      · exact fun hseeks => hexception hseeks p List.mem_cons_self
      · exact fun hseeks => hlevel hseeks p List.mem_cons_self

/-- Nothing is looked for once an exception and a level are found. -/
theorem assignRolesRest_of_found (system : TypeSystem) (ps : List Parameter) :
    assignRolesRest system false false ps = ps.map (·.inRole .regular) :=
  assignRolesRest_eq_map_regular (absurd · Bool.false_ne_true) (absurd · Bool.false_ne_true)

theorem length_regularArguments_le (system : TypeSystem) (seeksException seeksLevel : Bool)
    (ps : List Parameter) :
    (regularArguments (assignRolesRest system seeksException seeksLevel ps)).length
      ≤ ps.length :=
  Nat.le_trans (List.length_filter_le _ _)
    (Nat.le_of_eq (forall₂_assignRolesRest system seeksException seeksLevel ps).length_eq)

/-- **All are regular** exactly when nothing that is looked for is among them. -/
theorem length_regularArguments_eq_iff :
    (regularArguments (assignRolesRest system seeksException seeksLevel ps)).length = ps.length ↔
      (seeksException = true → ∀ p ∈ ps, system.assignable p.type .exception = false) ∧
        (seeksLevel = true → ∀ p ∈ ps, system.assignable p.type .level = false) := by
  constructor
  · intro h
    induction ps with
    | nil => exact ⟨fun _ _ hp => (nomatch hp), fun _ _ hp => nomatch hp⟩
    | cons p ps ih =>
        rcases assignRolesRest_cons_cases system seeksException seeksLevel p ps
          with ⟨role, b, c, hrole, hcons⟩ | ⟨hexception, hlevel⟩
        · -- a special parameter leaves one regular argument too few
          rw [hcons, regularArguments_cons_of_ne hrole] at h
          exact absurd (h ▸ length_regularArguments_le system b c ps) (Nat.not_succ_le_self _)
        · rw [assignRolesRest_cons_regular hexception hlevel, regularArguments_cons_regular] at h
          obtain ⟨hexceptions, hlevels⟩ := ih (Nat.succ.inj h)
          exact ⟨fun hseeks => List.forall_mem_cons.mpr ⟨hexception hseeks, hexceptions hseeks⟩,
            fun hseeks => List.forall_mem_cons.mpr ⟨hlevel hseeks, hlevels hseeks⟩⟩
  · rintro ⟨hexception, hlevel⟩
    rw [assignRolesRest_eq_map_regular hexception hlevel, regularArguments_map_regular,
      List.length_map]

/-! ## The level -/

theorem exists_level_cons_iff {role : Role} {as : List Argument} :
    (∃ a ∈ p.inRole role :: as, a.role = .level) ↔ role = .level ∨ ∃ a ∈ as, a.role = .level :=
  List.exists_mem_cons_iff _ _ _

/-- Once an exception is found, any level is the level argument. -/
theorem exists_level_assignRolesRest_of_found :
    (∃ a ∈ assignRolesRest system false true ps, a.role = .level) ↔
      ∃ p ∈ ps, system.assignable p.type .level = true := by
  induction ps with
  | nil => exact iff_of_false (fun ⟨_, ha, _⟩ => nomatch ha) (fun ⟨_, hp, _⟩ => nomatch hp)
  | cons p ps ih =>
      rw [List.exists_mem_cons_iff]
      cases hlevel : system.assignable p.type .level with
      | true =>
          rw [assignRolesRest_cons_level (absurd · Bool.false_ne_true) hlevel,
            exists_level_cons_iff]
          exact iff_of_true (.inl rfl) (.inl rfl)
      | false =>
          rw [assignRolesRest_cons_regular (absurd · Bool.false_ne_true) (fun _ => hlevel),
            exists_level_cons_iff, ih, or_iff_right Role.noConfusion,
            or_iff_right Bool.false_ne_true]

/-- **There is a level argument** exactly when some parameter has a level type and is
    not the one that is taken for the exception: the first of an exception type. -/
theorem exists_level_assignRolesRest_iff :
    (∃ a ∈ assignRolesRest system true true ps, a.role = .level) ↔
      ∃ i p, ps[i]? = some p ∧ system.assignable p.type .level = true ∧
        ps.findIdx? (system.assignable ·.type .exception) ≠ some i := by
  induction ps with
  | nil =>
      refine iff_of_false (fun ⟨_, ha, _⟩ => nomatch ha) ?_
      rintro ⟨i, p, hp, -⟩
      exact nomatch hp
  | cons p ps ih =>
      -- a place in the list is the first one, or a place in the rest
      rw [← Nat.or_exists_add_one, List.findIdx?_cons]
      simp only [List.getElem?_cons_zero, List.getElem?_cons_succ, Option.some.injEq,
        exists_eq_left']
      cases hexception : system.assignable p.type .exception with
      | true =>
          rw [assignRolesRest_cons_exception hexception, exists_level_cons_iff,
            exists_level_assignRolesRest_of_found, or_iff_right Role.noConfusion, if_pos rfl,
            or_iff_right fun h => h.2 rfl]
          simp only [List.mem_iff_getElem?]
          constructor
          · rintro ⟨q, ⟨i, hq⟩, hlevel⟩
            exact ⟨i, q, hq, hlevel, fun h => nomatch h⟩
          · rintro ⟨i, q, hq, hlevel, -⟩
            exact ⟨q, ⟨i, hq⟩, hlevel⟩
      | false =>
          rw [if_neg Bool.false_ne_true]
          have hzero : (ps.findIdx? (system.assignable ·.type .exception)).map (· + 1) ≠ some 0 := by
            intro h
            obtain ⟨i, -, hi⟩ := Option.map_eq_some_iff.mp h
            exact nomatch hi
          cases hlevel : system.assignable p.type .level with
          | true =>
              rw [assignRolesRest_cons_level (fun _ => hexception) hlevel, exists_level_cons_iff]
              exact iff_of_true (.inl rfl) (.inl ⟨rfl, hzero⟩)
          | false =>
              rw [assignRolesRest_cons_regular (fun _ => hexception) (fun _ => hlevel),
                exists_level_cons_iff, ih, or_iff_right Role.noConfusion,
                or_iff_right fun h => Bool.false_ne_true h.1]
              simp only [ne_eq, Option.map_eq_some_iff, Nat.add_right_cancel_iff, exists_eq_right]

end StructuredLog
