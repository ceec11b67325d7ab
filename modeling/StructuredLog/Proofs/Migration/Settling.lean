import Mathlib.Data.List.Nodup
import Mathlib.Data.List.Perm.Subperm
import StructuredLog.Proofs.Migration.Verdict

/-! # Settling — the name and the event id that a wanted method gets

    The names `Base`, `Base2`, `Base3`, … are distinct (`nthName_inj`), so a
    container of finitely many methods leaves one of them free.  It settles on
    the first name that has a method of the wanted shape or no method at all;
    each name before that has methods, and none of the wanted shape
    (`settle_eq_iff`).  A free event id is above all that are in use
    (`lt_of_nextEventId?_eq_some`). -/

namespace StructuredLog

/-! ## Names to try -/

theorem toString_nat_inj {m n : Nat} (h : toString m = toString n) : m = n := by
  have hdigits : Nat.toDigits 10 m = Nat.toDigits 10 n := by
    rw [← Nat.toList_repr, ← Nat.toList_repr]
    exact congrArg String.toList h
  rw [← @Nat.ofDigitChars_ten_toDigits m, hdigits, Nat.ofDigitChars_ten_toDigits]

/-- Distinct names, numbered from 1, are as many as they are in a list of names at most. -/
theorem le_length_of_distinct_mem {nameOf : Nat → String} {names : List String} {n : Nat}
    (hdistinct : ∀ i j, 1 ≤ i → 1 ≤ j → nameOf i = nameOf j → i = j)
    (hmem : ∀ i, 1 ≤ i → i ≤ n → nameOf i ∈ names) : n ≤ names.length := by
  have hnodup : ((List.range' 1 n).map nameOf).Nodup := by
    refine List.Nodup.map_on ?_ List.nodup_range'
    intro i hi j hj heq
    exact hdistinct i j (List.mem_range'_1.mp hi).1 (List.mem_range'_1.mp hj).1 heq
  have hsubset : (List.range' 1 n).map nameOf ⊆ names := by
    intro name hname
    obtain ⟨i, hi, rfl⟩ := List.mem_map.mp hname
    obtain ⟨hpos, hlt⟩ := List.mem_range'_1.mp hi
    exact hmem i hpos (by omega)
  have hle := (List.subperm_of_subset hnodup hsubset).length_le
  rwa [List.length_map, List.length_range'] at hle

namespace WantedMethod

variable {wanted : WantedMethod} {m n : Nat}

theorem nthName_of_le (h : n ≤ 1) : wanted.nthName n = wanted.baseName :=
  if_pos h

theorem nthName_of_lt (h : 1 < n) : wanted.nthName n = wanted.baseName ++ toString n :=
  if_neg (Nat.not_le.mpr h)

/-- A suffix is never empty. -/
theorem baseName_ne_append_toString (wanted : WantedMethod) (n : Nat) :
    wanted.baseName ≠ wanted.baseName ++ toString n := by
  intro h
  have hnil : (toString n).toList = [] := by
    have hlist := congrArg String.toList h
    rw [String.toList_append] at hlist
    exact List.self_eq_append_right.mp hlist
  exact Nat.toDigits_ne_nil (Nat.toList_repr.symm.trans hnil)

/-- **The names to try are distinct.** -/
theorem nthName_inj (hm : 1 ≤ m) (hn : 1 ≤ n) (h : wanted.nthName m = wanted.nthName n) :
    m = n := by
  rcases Nat.eq_or_lt_of_le hm with rfl | hm
  · rcases Nat.eq_or_lt_of_le hn with rfl | hn
    · rfl
    · rw [nthName_of_le (Nat.le_refl 1), nthName_of_lt hn] at h
      exact absurd h (wanted.baseName_ne_append_toString n)
  · rcases Nat.eq_or_lt_of_le hn with rfl | hn
    · rw [nthName_of_le (Nat.le_refl 1), nthName_of_lt hm] at h
      exact absurd h.symm (wanted.baseName_ne_append_toString m)
    · rw [nthName_of_lt hm, nthName_of_lt hn, String.append_right_inj] at h
      exact toString_nat_inj h

end WantedMethod

namespace Container

variable {c : Container} {wanted : WantedMethod} {n : Nat}

/-- The names that have methods. -/
def names (c : Container) : List String :=
  c.methods.map Signature.name

theorem names_ofDeclarations (container : String) (ds : List Declaration) :
    (ofDeclarations container ds).names = ds.map Declaration.name :=
  List.map_map

theorem eventIds_ofDeclarations (container : String) (ds : List Declaration) :
    (ofDeclarations container ds).methods.map Signature.eventId = ds.map (·.marking.eventId) :=
  List.map_map

theorem named_ofDeclarations_append (container name : String) (ds ds' : List Declaration) :
    (ofDeclarations container (ds ++ ds')).named name
      = (ofDeclarations container ds).named name ++ (ofDeclarations container ds').named name := by
  show ((ds ++ ds').map Declaration.signature).filter _ = _
  rw [List.map_append, List.filter_append]
  rfl

theorem named_eq_nil_iff {name : String} : c.named name = [] ↔ name ∉ c.names := by
  rw [named, List.filter_eq_nil_iff, names, List.mem_map]
  constructor
  · rintro h ⟨m, hm, rfl⟩
    exact h m hm (beq_self_eq_true m.name)
  · intro h m hm heq
    exact h ⟨m, hm, beq_iff_eq.mp heq⟩

/-- A name without methods has none of any shape. -/
theorem ofShape?_of_not_mem {name : String} (h : name ∉ c.names) (shape : Shape) :
    c.ofShape? name shape = none := by
  rw [ofShape?, named_eq_nil_iff.mpr h]
  rfl

/-- Each name before the `n`-th has methods, and none of the wanted shape. -/
def PassesOver (c : Container) (wanted : WantedMethod) (n : Nat) : Prop :=
  ∀ i, 1 ≤ i → i < n →
    wanted.nthName i ∈ c.names ∧ c.ofShape? (wanted.nthName i) wanted.shape = none

/-- The search for a name stops at the `n`-th one, which has the method `found` of the
    wanted shape or is free. -/
structure StopsAt (c : Container) (wanted : WantedMethod) (n : Nat) (found : Option Signature) :
    Prop where
  pos : 1 ≤ n
  passes : c.PassesOver wanted n
  found_eq : c.ofShape? (wanted.nthName n) wanted.shape = found
  free : found = none → wanted.nthName n ∉ c.names

theorem PassesOver.succ (h : c.PassesOver wanted n) (htaken : wanted.nthName n ∈ c.names)
    (hshape : c.ofShape? (wanted.nthName n) wanted.shape = none) :
    c.PassesOver wanted (n + 1) := by
  intro i hi hlt
  rcases Nat.eq_or_lt_of_le (Nat.le_of_lt_succ hlt) with rfl | hlt
  · exact ⟨htaken, hshape⟩
  · exact h i hi hlt

/-- Once as many names as there are methods have been passed over, the next one is
    free. -/
theorem PassesOver.not_mem_names (h : c.PassesOver wanted n) (hn : c.methods.length < n) :
    wanted.nthName n ∉ c.names := by
  intro hmem
  -- the first `n` names would all have methods, and they are distinct
  have hle : n ≤ c.names.length := by
    refine le_length_of_distinct_mem (fun _ _ => wanted.nthName_inj) ?_
    intro i hpos hle
    rcases Nat.eq_or_lt_of_le hle with rfl | hlt
    · exact hmem
    · exact (h i hpos hlt).1
  rw [names, List.length_map] at hle
  omega

/-- With tries for one name more than there are methods, the search ends where the container
    settles. -/
theorem exists_stopsAt_settleFrom (tries : Nat) (hpos : 1 ≤ n) (h : c.PassesOver wanted n)
    (htries : c.methods.length < n + tries) :
    ∃ m, (c.settleFrom wanted tries n).1 = wanted.nthName m ∧
      c.StopsAt wanted m (c.settleFrom wanted tries n).2 := by
  induction tries generalizing n with
  | zero =>
      have hfree := h.not_mem_names htries
      exact ⟨n, rfl, hpos, h, ofShape?_of_not_mem hfree _, fun _ => hfree⟩
  | succ tries ih =>
      rw [settleFrom]
      cases hfound : c.ofShape? (wanted.nthName n) wanted.shape with
      | some method => exact ⟨n, rfl, hpos, h, hfound, (absurd · (Option.some_ne_none method))⟩
      | none =>
          by_cases hempty : (c.named (wanted.nthName n)).isEmpty = true
          · simp only [hempty, if_true]
            have hfree := named_eq_nil_iff.mp (List.isEmpty_iff.mp hempty)
            exact ⟨n, rfl, hpos, h, hfound, fun _ => hfree⟩
          · simp only [hempty]
            have htaken : wanted.nthName n ∈ c.names := by
              by_contra hfree
              exact hempty (List.isEmpty_iff.mpr (named_eq_nil_iff.mpr hfree))
            exact ih (by omega) (h.succ htaken hfound) (by omega)

/-- A search stops at one name only. -/
theorem StopsAt.unique {m : Nat} {found found' : Option Signature}
    (h : c.StopsAt wanted n found) (h' : c.StopsAt wanted m found') : n = m := by
  have hnot {i j : Nat} {found found' : Option Signature} (hi : c.StopsAt wanted i found)
      (hj : c.StopsAt wanted j found') : ¬ i < j := by
    intro hlt
    obtain ⟨htaken, hshape⟩ := hj.passes i hi.pos hlt
    exact hi.free (hi.found_eq.symm.trans hshape) htaken
  exact Nat.le_antisymm (Nat.not_lt.mp (hnot h' h)) (Nat.not_lt.mp (hnot h h'))

/-- **The container settles on the name that the search stops at.** -/
theorem settle_eq_iff {name : String} {found : Option Signature} :
    c.settle wanted = (name, found) ↔ ∃ n, name = wanted.nthName n ∧ c.StopsAt wanted n found := by
  have hnothing : c.PassesOver wanted 1 := fun i hi hlt => absurd hi (Nat.not_le.mpr hlt)
  obtain ⟨n, hname, hstops⟩ :=
    exists_stopsAt_settleFrom c.methods.length (Nat.le_refl 1) hnothing (by omega)
  rw [settle]
  generalize c.settleFrom wanted c.methods.length 1 = settled at hname hstops
  obtain ⟨name', found'⟩ := settled
  constructor
  · intro h
    obtain ⟨rfl, rfl⟩ := Prod.mk.inj h
    exact ⟨n, hname, hstops⟩
  · rintro ⟨m, rfl, hstops'⟩
    obtain rfl := hstops.unique hstops'
    exact congrArg₂ Prod.mk hname (hstops.found_eq.symm.trans hstops'.found_eq)

/-! ## Event ids -/

instance : Std.LawfulOrderMax Int32 where
  max_eq_or a b := by
    show (if a ≤ b then b else a) = a ∨ (if a ≤ b then b else a) = b
    by_cases h : a ≤ b
    · exact .inr (if_pos h)
    · exact .inl (if_neg h)
  max_le_iff a b c := by
    show (if a ≤ b then b else a) ≤ c ↔ a ≤ c ∧ b ≤ c
    by_cases h : a ≤ b
    · rw [if_pos h]
      exact ⟨fun hb => ⟨Int32.le_trans h hb, hb⟩, And.right⟩
    · rw [if_neg h]
      have hba := Int32.le_of_lt (Int32.not_le.mp h)
      exact ⟨fun ha => ⟨ha, Int32.le_trans hba ha⟩, And.left⟩

/-- Only the last event id has none after it. -/
theorem toInt_add_one_of_ne_last {id : Int32} (h : id ≠ lastEventId) :
    (id + 1).toInt = id.toInt + 1 := by
  have hne : id.toInt ≠ 2147483647 := fun heq => h (Int32.toInt.inj heq)
  have hlt := id.toInt_lt
  have hle := id.le_toInt
  rw [Int32.toInt_add]
  show (id.toInt + 1).bmod _ = _
  rw [Int.bmod_eq_of_le] <;> omega

theorem lt_add_one_of_ne_last {id : Int32} (h : id ≠ lastEventId) : id < id + 1 := by
  rw [Int32.lt_iff_toInt_lt, toInt_add_one_of_ne_last h]
  exact Int.lt_succ id.toInt

/-- **A free event id is above all that are in use.** -/
theorem lt_of_nextEventId?_eq_some {base id : Int32} (h : c.nextEventId? base = some id) :
    ∀ m ∈ c.methods, m.eventId < id := by
  intro m hm
  rw [nextEventId?] at h
  cases hmax : c.maxEventId? with
  | none =>
      rw [maxEventId?, List.max?_eq_none_iff, List.map_eq_nil_iff] at hmax
      exact absurd (hmax ▸ hm) List.not_mem_nil
  | some greatest =>
      simp only [hmax] at h
      by_cases hlast : greatest = lastEventId
      · rw [if_pos hlast] at h
        exact nomatch h
      · rw [if_neg hlast] at h
        have hle : m.eventId ≤ greatest :=
          (List.max?_eq_some_iff.mp hmax).2 _ (List.mem_map_of_mem hm)
        have hmaxle : greatest + 1 ≤ max (greatest + 1) base :=
          (Std.max_le_iff.mp (Int32.le_refl _)).1
        rw [← Option.some.inj h]
        exact Int32.lt_of_le_of_lt hle
          (Int32.lt_of_lt_of_le (lt_add_one_of_ne_last hlast) hmaxle)

theorem le_lastEventId (id : Int32) : id ≤ lastEventId := by
  have hlt := id.toInt_lt
  rw [Int32.le_iff_toInt_le]
  show id.toInt ≤ 2147483647
  omega

/-- There is no free event id exactly when the last one is in use. -/
theorem nextEventId?_eq_none_iff {base : Int32} :
    c.nextEventId? base = none ↔ lastEventId ∈ c.methods.map Signature.eventId := by
  rw [nextEventId?]
  cases hmax : c.maxEventId? with
  | none =>
      rw [maxEventId?, List.max?_eq_none_iff] at hmax
      rw [hmax]
      exact iff_of_false (nomatch ·) List.not_mem_nil
  | some greatest =>
      obtain ⟨hmem, hgreatest⟩ := List.max?_eq_some_iff.mp hmax
      by_cases hlast : greatest = lastEventId
      · simp only [if_pos hlast]
        exact iff_of_true trivial (hlast ▸ hmem)
      · simp only [if_neg hlast]
        refine iff_of_false (nomatch ·) fun hin => hlast ?_
        exact Int32.le_antisymm (le_lastEventId greatest) (hgreatest _ hin)

/-! ## Resolutions -/

/-- The search stops somewhere. -/
theorem exists_stopsAt (c : Container) (wanted : WantedMethod) :
    ∃ n found, c.StopsAt wanted n found := by
  obtain ⟨n, -, hstops⟩ := settle_eq_iff.mp (Eq.refl (c.settle wanted))
  exact ⟨n, _, hstops⟩

theorem StopsAt.methodFor?_of_some {method : Signature} (h : c.StopsAt wanted n (some method))
    (firstEventId : Int32) :
    c.methodFor? wanted firstEventId = some ⟨wanted.nthName n, true, method.eventId⟩ := by
  rw [methodFor?, settle_eq_iff.mpr ⟨n, rfl, h⟩]

theorem StopsAt.methodFor?_of_none (h : c.StopsAt wanted n none) (firstEventId : Int32) :
    c.methodFor? wanted firstEventId
      = (c.nextEventId? firstEventId).map (⟨wanted.nthName n, false, ·⟩) := by
  rw [methodFor?, settle_eq_iff.mpr ⟨n, rfl, h⟩]

/-- The method that the search stops for has the name and the shape that were looked
    for. -/
theorem StopsAt.method_eq {method : Signature} (h : c.StopsAt wanted n (some method)) :
    method ∈ c.methods ∧ method = ⟨wanted.nthName n, wanted.shape, method.eventId⟩ := by
  obtain ⟨hmem, hname, hshape⟩ := of_ofShape?_eq_some h.found_eq
  refine ⟨hmem, ?_⟩
  rw [← hname, ← hshape]

end Container

/-! ## Verdicts -/

namespace AdHocCall

variable {options : MigrationOptions} {wish : MethodWish} {ds : List Declaration} {n : Nat}

/-- A migration reuses the method that the search stops for. -/
theorem verdict_of_stopsAt_some (call : AdHocCall) {method : Signature}
    (h : (Container.ofDeclarations options.containerName ds).StopsAt wish.wanted n
      (some method)) :
    ∃ stored, ds.find? (·.signature == method) = some stored ∧
      call.verdict options wish ds
        = ⟨.ok (call.fix options wish.roles call.span stored true), none⟩ := by
  obtain ⟨hmem, hmethod⟩ := h.method_eq
  obtain ⟨d, hd, hsignature⟩ := List.mem_map.mp hmem
  cases hstored : ds.find? (·.signature == method) with
  | none => exact absurd (beq_iff_eq.mpr hsignature) (List.find?_eq_none.mp hstored d hd)
  | some stored =>
      refine ⟨stored, rfl, ?_⟩
      rw [verdict, h.methodFor?_of_some]
      simp only [if_true, ← hmethod, hstored]

/-- A migration mints the method under the free name that the search stops at. -/
theorem verdict_of_stopsAt_none (call : AdHocCall)
    (h : (Container.ofDeclarations options.containerName ds).StopsAt wish.wanted n none)
    {eventId : Int32}
    (heventId : (Container.ofDeclarations options.containerName ds).nextEventId?
      options.firstEventId = some eventId) :
    call.verdict options wish ds
      = ⟨.ok (call.fix options wish.roles call.span
            (wish.declare (wish.wanted.nthName n) eventId) false),
          some (wish.declare (wish.wanted.nthName n) eventId)⟩ := by
  rw [verdict, h.methodFor?_of_none, heventId]
  rfl

/-- A migration fails when its method is to be minted and no event id is free. -/
theorem verdict_of_exhausted (call : AdHocCall)
    (h : (Container.ofDeclarations options.containerName ds).StopsAt wish.wanted n none)
    (heventId : (Container.ofDeclarations options.containerName ds).nextEventId?
      options.firstEventId = none) :
    call.verdict options wish ds
      = ⟨.error (.eventIdsExhausted options.containerName), none⟩ := by
  rw [verdict, h.methodFor?_of_none, heventId]
  rfl

/-- **What is minted has a free name and a free event id.** -/
theorem exists_stopsAt_of_minted? {call : AdHocCall} {minted : Declaration}
    (h : (call.verdict options wish ds).minted? = some minted) :
    ∃ n eventId,
      (Container.ofDeclarations options.containerName ds).StopsAt wish.wanted n none ∧
        (Container.ofDeclarations options.containerName ds).nextEventId? options.firstEventId
          = some eventId ∧
        minted = wish.declare (wish.wanted.nthName n) eventId := by
  obtain ⟨n, found, hstops⟩ :=
    (Container.ofDeclarations options.containerName ds).exists_stopsAt wish.wanted
  cases found with
  | some method =>
      obtain ⟨stored, -, hverdict⟩ := verdict_of_stopsAt_some call hstops
      rw [hverdict] at h
      exact nomatch h
  | none =>
      cases heventId : (Container.ofDeclarations options.containerName ds).nextEventId?
          options.firstEventId with
      | none =>
          rw [verdict_of_exhausted call hstops heventId] at h
          exact nomatch h
      | some eventId =>
          rw [verdict_of_stopsAt_none call hstops heventId] at h
          exact ⟨n, eventId, hstops, rfl, (Option.some.inj h).symm⟩

/-- **The event id of what is minted is above all that are in use.** -/
theorem eventId_lt_of_minted? {call : AdHocCall} {minted : Declaration}
    (h : (call.verdict options wish ds).minted? = some minted) :
    ∀ d ∈ ds, d.marking.eventId < minted.marking.eventId := by
  obtain ⟨n, eventId, -, heventId, rfl⟩ := exists_stopsAt_of_minted? h
  intro d hd
  exact Container.lt_of_nextEventId?_eq_some heventId d.signature (List.mem_map_of_mem hd)

end AdHocCall

end StructuredLog
