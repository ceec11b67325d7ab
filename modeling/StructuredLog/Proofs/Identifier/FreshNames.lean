import StructuredLog.Proofs.Identifier.Naming
import StructuredLog.Proofs.Identifier.Validity

/-! # Fresh names — why no two parameters are called alike

    A placeholder may itself be spelled `arg1` or `arg1_2`, so a positional name
    can be taken before its position is reached.  The search for a free one
    knows no bound of its own, but the names that it tries are distinct
    (`positionalName_inj`), and it stops at the latest one try after there are
    no more taken names (`exists_isFirstFree`).

    So each name is new among the earlier ones (`parameterName_not_mem`), and by
    induction on the arguments all names are distinct (`nodup_parameterNames`).
    The name at a position depends on the placeholder there and on the earlier
    names alone (`getElem?_parameterNames`). -/

namespace StructuredLog.Identifier

variable {reservedInitial : Char} {taken placeholders : List String} {position m n : Nat}

/-! ## Positional names -/

theorem positionalName_of_le (h : n ≤ 1) :
    positionalName position n = "arg" ++ toString position :=
  if_pos h

theorem positionalName_of_lt (h : 1 < n) :
    positionalName position n = "arg" ++ toString position ++ "_" ++ toString n :=
  if_neg (Nat.not_le.mpr h)

/-- A numbered name is longer than the plain one. -/
theorem ne_numbered (base : String) (n : Nat) : base ≠ base ++ "_" ++ toString n := by
  intro h
  have hlist := congrArg String.toList h
  rw [String.append_assoc, String.toList_append] at hlist
  have hnil := List.self_eq_append_right.mp hlist
  rw [String.toList_append] at hnil
  exact List.cons_ne_nil _ _ hnil

/-- **The names to try are distinct.** -/
theorem positionalName_inj (position : Nat) (hm : 1 ≤ m) (hn : 1 ≤ n)
    (h : positionalName position m = positionalName position n) : m = n := by
  rcases Nat.eq_or_lt_of_le hm with rfl | hm
  · rcases Nat.eq_or_lt_of_le hn with rfl | hn
    · rfl
    · rw [positionalName_of_le (Nat.le_refl 1), positionalName_of_lt hn] at h
      exact absurd h (ne_numbered _ n)
  · rcases Nat.eq_or_lt_of_le hn with rfl | hn
    · rw [positionalName_of_le (Nat.le_refl 1), positionalName_of_lt hm] at h
      exact absurd h.symm (ne_numbered _ m)
    · rw [positionalName_of_lt hm, positionalName_of_lt hn, String.append_right_inj] at h
      exact toString_nat_inj h

theorem forall_isContinue_toString (n : Nat) :
    ∀ c ∈ (toString n).toList, isContinue c = true := by
  intro c hc
  have hdigit : c.isDigit = true := by
    have hc : c ∈ Nat.toDigits 10 n := Nat.toList_repr ▸ hc
    exact Nat.isDigit_of_mem_toDigits (by decide) (by decide) hc
  exact isContinue_of_isNumeric (Text.isNumeric_of_isDigit hdigit)

theorem all_isContinue_arg : "arg".toList.all isContinue = true := by
  decide +kernel

theorem all_isContinue_underscore : "_".toList.all isContinue = true := by
  decide +kernel

theorem isAlphabetic_a : Text.isAlphabetic 'a' = true := by
  decide +kernel

/-- A positional name is an identifier. -/
theorem isIdentifier_positionalName (position n : Nat) :
    isIdentifier (positionalName position n) = true := by
  obtain ⟨cs, hcs⟩ := List.head?_eq_some_iff.mp (head?_positionalName position n)
  rw [isIdentifier_iff_of_letter hcs isAlphabetic_a]
  have hbase : ∀ c ∈ ("arg" ++ toString position).toList, isContinue c = true := by
    rw [String.toList_append, List.forall_mem_append]
    exact ⟨List.all_eq_true.mp all_isContinue_arg, forall_isContinue_toString position⟩
  rcases Nat.lt_or_ge 1 n with hn | hn
  · rw [positionalName_of_lt hn, String.toList_append, String.toList_append,
      List.forall_mem_append, List.forall_mem_append]
    exact ⟨⟨hbase, List.all_eq_true.mp all_isContinue_underscore⟩, forall_isContinue_toString n⟩
  · rw [positionalName_of_le hn]
    exact hbase

/-- A positional name is none of the special ones. -/
theorem positionalName_not_mem_specialNames (position n : Nat) :
    positionalName position n ∉ specialNames := by
  intro hspecial
  have hinitial : ∀ special ∈ specialNames, special.toList.head? ≠ some 'a' := by decide
  exact hinitial _ hspecial (head?_positionalName position n)

/-! ## The search for a free one -/

/-- The `n`-th positional name is not taken, and all before it are. -/
structure IsFirstFree (taken : List String) (position n : Nat) : Prop where
  pos : 1 ≤ n
  free : positionalName position n ∉ taken
  passed : ∀ m, 1 ≤ m → m < n → positionalName position m ∈ taken

/-- A search that has passed over taken names only, and has tries left for one name more than
    are taken, ends at the first free one. -/
theorem exists_isFirstFree_from (tries : Nat) (hpos : 1 ≤ n)
    (hpassed : ∀ m, 1 ≤ m → m < n → positionalName position m ∈ taken)
    (htries : taken.length < n + tries) :
    ∃ stop, IsFirstFree taken position stop ∧
      freePositionalFrom taken position tries n = positionalName position stop := by
  induction tries generalizing n with
  | zero =>
      refine ⟨n, ⟨hpos, ?_, hpassed⟩, rfl⟩
      intro htaken
      -- all of the first `n` names would be taken, which are too many
      have hle : n ≤ taken.length := by
        refine le_length_of_distinct_mem (fun _ _ => positionalName_inj position) ?_
        intro m hm hle
        rcases Nat.eq_or_lt_of_le hle with rfl | hlt
        · exact htaken
        · exact hpassed m hm hlt
      omega
  | succ tries ih =>
      rw [freePositionalFrom]
      by_cases htaken : positionalName position n ∈ taken
      · rw [if_pos (List.contains_iff_mem.mpr htaken)]
        refine ih (Nat.le_succ_of_le hpos) ?_ (by omega)
        intro m hm hlt
        rcases Nat.eq_or_lt_of_le (Nat.le_of_lt_succ hlt) with rfl | hlt
        · exact htaken
        · exact hpassed m hm hlt
      · rw [if_neg (mt List.contains_iff_mem.mp htaken)]
        exact ⟨n, ⟨hpos, htaken, hpassed⟩, rfl⟩

/-- **The search for a positional name ends**, with the first one that is free. -/
theorem exists_isFirstFree (taken : List String) (position : Nat) :
    ∃ n, IsFirstFree taken position n ∧
      freePositional taken position = positionalName position n :=
  exists_isFirstFree_from taken.length (Nat.le_refl 1)
    (fun _ hm hlt => absurd hm (Nat.not_le.mpr hlt)) (by omega)

/-! ## One name -/

theorem isUsable_iff {placeholder : String} :
    isUsable reservedInitial taken placeholder = true ↔
      (isIdentifier placeholder = true ∧ startsReserved reservedInitial placeholder = false) ∧
        placeholder ∉ taken := by
  simp only [isUsable, Bool.and_eq_true, Bool.not_eq_true', Bool.eq_false_iff, ne_eq,
    List.contains_iff_mem]

/-- **A name is new.** -/
theorem parameterName_not_mem (reservedInitial : Char) (taken : List String) (position : Nat)
    (placeholder? : Option String) :
    parameterName reservedInitial taken position placeholder? ∉ taken := by
  rw [parameterName]
  cases husable : placeholder?.filter (isUsable reservedInitial taken) with
  | none =>
      obtain ⟨n, hfirst, hname⟩ := exists_isFirstFree taken position
      exact hname ▸ hfirst.free
  | some placeholder => exact (isUsable_iff.mp (Option.filter_eq_some_iff.mp husable).2).2

/-! ## All names -/

/-- The names are distinct, and none of them was taken. -/
theorem nodup_parameterNamesFrom (count : Nat) :
    (parameterNamesFrom reservedInitial taken position count placeholders).Nodup ∧
      ∀ name ∈ parameterNamesFrom reservedInitial taken position count placeholders,
        name ∉ taken := by
  induction count generalizing taken position placeholders with
  | zero => exact ⟨List.nodup_nil, List.forall_mem_nil _⟩
  | succ count ih =>
      have hnew := parameterName_not_mem reservedInitial taken position placeholders.head?
      rw [parameterNamesFrom, List.nodup_cons, List.forall_mem_cons]
      refine ⟨⟨?_, ih.1⟩, hnew, ?_⟩
      · exact fun hmem => ih.2 _ hmem List.mem_cons_self
      · exact fun name hname htaken => ih.2 name hname (List.mem_cons_of_mem _ htaken)

/-- **The names of the parameters are distinct.** -/
theorem nodup_parameterNames (reservedInitial : Char) (placeholders : List String)
    (count : Nat) : (parameterNames reservedInitial placeholders count).Nodup :=
  (nodup_parameterNamesFrom count).1

/-- Each name is chosen when the ones before it are taken. -/
theorem getElem?_parameterNamesFrom {count i : Nat} {name : String}
    (h : (parameterNamesFrom reservedInitial taken position count placeholders)[i]?
      = some name) :
    ∃ earlier, (∀ q, q ∈ earlier ↔
        q ∈ (parameterNamesFrom reservedInitial taken position count placeholders).take i ∨
          q ∈ taken) ∧
      name = parameterName reservedInitial earlier (position + i) placeholders[i]? := by
  induction count generalizing taken position placeholders i with
  | zero => exact nomatch h
  | succ count ih =>
      rw [parameterNamesFrom] at h ⊢
      cases i with
      | zero =>
          rw [List.getElem?_cons_zero, Option.some.injEq] at h
          refine ⟨taken, fun q => (or_iff_right List.not_mem_nil).symm, ?_⟩
          rw [← h, List.head?_eq_getElem?]
          rfl
      | succ i =>
          obtain ⟨earlier, hearlier, hname⟩ := ih h
          refine ⟨earlier, ?_, ?_⟩
          · intro q
            rw [hearlier, List.take_succ_cons, List.mem_cons, List.mem_cons]
            exact or_left_comm.trans or_assoc.symm
          · rw [hname, List.getElem?_tail, Nat.add_right_comm]
            rfl

/-- The name that the argument at a position gets after the earlier ones: its placeholder if
    that can name it and is new, and otherwise the first positional name that is new. -/
inductive IsChosen (reservedInitial : Char) (placeholder? : Option String)
    (earlier : List String) (position : Nat) : String → Prop where
  | placeholder {p : String} (hp : placeholder? = some p) (hgood : CanName reservedInitial p)
      (hnew : p ∉ earlier) : IsChosen reservedInitial placeholder? earlier position p
  | plain (hno : ∀ p, placeholder? = some p → CanName reservedInitial p → p ∈ earlier)
      (hnew : "arg" ++ toString position ∉ earlier) :
      IsChosen reservedInitial placeholder? earlier position ("arg" ++ toString position)
  | numbered {n : Nat}
      (hno : ∀ p, placeholder? = some p → CanName reservedInitial p → p ∈ earlier)
      (htaken : "arg" ++ toString position ∈ earlier) (hn : 2 ≤ n)
      (hnew : "arg" ++ toString position ++ "_" ++ toString n ∉ earlier)
      (hleast : ∀ m, 2 ≤ m → m < n →
        "arg" ++ toString position ++ "_" ++ toString m ∈ earlier)
      (hcount : n ≤ earlier.length + 1) :
      IsChosen reservedInitial placeholder? earlier position
        ("arg" ++ toString position ++ "_" ++ toString n)

/-- The first free positional name is the one to choose where the placeholder lends none. -/
theorem IsFirstFree.isChosen {placeholder? : Option String} {earlier : List String}
    (h : IsFirstFree taken position n)
    (hno : ∀ p, placeholder? = some p → CanName reservedInitial p → p ∈ earlier)
    (htaken : ∀ q, q ∈ taken ↔ q ∈ earlier ∨ q ∈ specialNames) :
    IsChosen reservedInitial placeholder? earlier position (positionalName position n) := by
  -- no positional name is special, so what is taken of them are earlier names
  have hearlier : ∀ m, positionalName position m ∈ taken ↔ positionalName position m ∈ earlier :=
    fun m => (htaken _).trans (or_iff_left (positionalName_not_mem_specialNames position m))
  have hfree := mt (hearlier n).mpr h.free
  have hpassed := fun m hm hlt => (hearlier m).mp (h.passed m hm hlt)
  rcases Nat.eq_or_lt_of_le h.pos with rfl | hn
  · rw [positionalName_of_le (Nat.le_refl 1)] at hfree ⊢
    exact .plain hno hfree
  · have hplain := hpassed 1 (Nat.le_refl 1) hn
    have hcount : n - 1 ≤ earlier.length :=
      le_length_of_distinct_mem (fun _ _ => positionalName_inj position)
        fun m hm hle => hpassed m hm (by omega)
    rw [positionalName_of_le (Nat.le_refl 1)] at hplain
    rw [positionalName_of_lt hn] at hfree ⊢
    refine .numbered hno hplain hn hfree ?_ (by omega)
    intro m hm hlt
    rw [← positionalName_of_lt hm]
    exact hpassed m (by omega) hlt

/-- **Each parameter gets the name that is to be chosen** after the earlier ones. -/
theorem isChosen_parameterName {placeholder? : Option String} {earlier : List String}
    (htaken : ∀ q, q ∈ taken ↔ q ∈ earlier ∨ q ∈ specialNames) :
    IsChosen reservedInitial placeholder? earlier position
      (parameterName reservedInitial taken position placeholder?) := by
  have husable_iff : ∀ p, isUsable reservedInitial taken p = true ↔
      CanName reservedInitial p ∧ p ∉ earlier := by
    intro p
    rw [isUsable_iff, htaken, not_or, CanName]
    tauto
  rw [parameterName]
  cases husable : placeholder?.filter (isUsable reservedInitial taken) with
  | none =>
      obtain ⟨n, hfirst, hname⟩ := exists_isFirstFree taken position
      show IsChosen _ _ _ _ (freePositional taken position)
      rw [hname]
      refine hfirst.isChosen ?_ htaken
      intro p hp hgood
      by_contra hnew
      rw [hp, Option.filter_some, if_pos ((husable_iff p).mpr ⟨hgood, hnew⟩)] at husable
      injection husable
  | some p =>
      obtain ⟨hp, husable⟩ := Option.filter_eq_some_iff.mp husable
      obtain ⟨hgood, hnew⟩ := (husable_iff p).mp husable
      exact .placeholder hp hgood hnew

/-- **Parameters have names of their own.**  There is a name for each argument; the names
    are distinct identifiers, neither special nor reserved; and each is chosen after the
    earlier ones: the placeholder at its position if that can name it and is new, and
    otherwise the first positional name that is new.  No more positional names are tried
    than there are earlier names, and one. -/
theorem parameter_names_are_fresh (h : reservedInitial ≠ 'a')
    (placeholders : List String) (count : Nat) :
    let names := parameterNames reservedInitial placeholders count
    names.length = count ∧ names.Nodup ∧
      (∀ name ∈ names, isIdentifier name = true ∧ name ∉ specialNames ∧
        startsReserved reservedInitial name = false) ∧
      ∀ (i : Nat) (name : String), names[i]? = some name →
        IsChosen reservedInitial placeholders[i]? (names.take i) i name := by
  intro names
  refine ⟨length_parameterNamesFrom _ _ _ _ _, nodup_parameterNames _ _ _, ?_, ?_⟩
  · intro name hname
    refine ⟨?_, not_mem_specialNames_of_mem_parameterNames hname,
      startsReserved_parameterNames h hname⟩
    rcases parameterNames_cases hname with hgood | ⟨position, n, rfl⟩
    · exact hgood.1
    · exact isIdentifier_positionalName position n
  · intro i name hname
    obtain ⟨earlier, hearlier, rfl⟩ := getElem?_parameterNamesFrom hname
    rw [Nat.zero_add]
    exact isChosen_parameterName hearlier

/-- Placeholders that take two names of the third argument in advance. -/
theorem parameter_names_are_fresh_crossed :
    '_' ≠ 'a' ∧
      parameterNames '_' ["arg2", "arg2_2", "0"] 4 = ["arg2", "arg2_2", "arg2_3", "arg3"] ∧
      IsChosen '_' (some "0") ["arg2", "arg2_2"] 2 "arg2_3" := by
  have hnames : parameterNames '_' ["arg2", "arg2_2", "0"] 4
      = ["arg2", "arg2_2", "arg2_3", "arg3"] := by
    decide +kernel
  have hchosen := (parameter_names_are_fresh (show '_' ≠ 'a' by decide)
    ["arg2", "arg2_2", "0"] 4).2.2.2 2 "arg2_3" (by rw [hnames]; rfl)
  rw [hnames] at hchosen
  exact ⟨by decide, hnames, hchosen⟩

end StructuredLog.Identifier
