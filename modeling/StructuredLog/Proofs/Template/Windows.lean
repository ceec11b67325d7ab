import StructuredLog.Proofs.Template.Runs

/-! # Windows — where the search for a brace stops

    A scan searches a part of a text for a brace, from where it stands up to the
    end.  The part is a window: a run that its start or its end cuts in two
    counts there with what is left of it.

    The search stops at the first run of the window that is odd or reaches its
    end, and only fails where there is none (`delimitingBrace?_eq_some_iff`,
    `delimitingBrace?_eq_none_iff`).  It can be made in one pass that counts the
    braces of the current run and keeps a tentative result.  The result is
    always the brace that the run would delimit with if it ended there, so the
    pass ends with what the search finds (`sweep_eq`, `delimiterBetween_exact`). -/

namespace StructuredLog.Template

section Search

variable {α : Type} {b : α} {xs : List α}

namespace MaximalRun

/-- A run that starts before another one is a run of the text before that one. -/
theorem exists_within (r r' : MaximalRun b xs) (h : r'.before.length < r.before.length) :
    r'.after ≠ [] ∧ ∃ within : MaximalRun b r.before, within.length = r'.length := by
  have hlast := r.before_ends
  rcases List.append_eq_append_iff.mp (r'.text_eq.trans r.text_eq.symm) with
    ⟨middle, hbefore, hrun⟩ | ⟨middle, hbefore, -⟩
  · rcases List.append_eq_append_iff.mp hrun with ⟨tail, hmiddle, hafter⟩ | ⟨tail, hparts, -⟩
    · -- the earlier run ends within `middle`, and something parts it from the later one
      have htail : tail ≠ [] := by
        rintro rfl
        refine hlast ?_
        rw [hbefore, hmiddle, List.append_nil]
        exact getLast?_append_replicate _ (Nat.ne_of_gt r'.length_pos)
      have hhead : tail.head? ≠ some b := by
        intro hstart
        refine r'.after_starts ?_
        rw [hafter, List.head?_append, hstart]
        rfl
      constructor
      · rw [hafter]
        exact List.append_ne_nil_of_left_ne_nil htail _
      · exact ⟨⟨r'.before, r'.length, tail, r'.length_pos, by rw [hbefore, hmiddle],
          r'.before_ends, hhead⟩, rfl⟩
    · -- the earlier run cannot reach the later one
      obtain ⟨-, hmiddle, -⟩ := List.replicate_eq_append_iff.mp hparts
      have hpos : middle.length ≠ 0 := by
        intro hzero
        rw [hbefore, List.length_append, hzero] at h
        exact Nat.lt_irrefl _ h
      refine absurd ?_ hlast
      rw [hbefore, hmiddle]
      exact getLast?_append_replicate _ hpos
  · rw [hbefore, List.length_append] at h
    omega

/-- Behind even runs no earlier run stops a search. -/
theorem not_delimits_of_evenRuns {r r' : MaximalRun b xs} (heven : EvenRuns b r.before)
    (h : r'.before.length < r.before.length) : ¬ r'.Delimits := by
  obtain ⟨hafter, within, hlength⟩ := exists_within r r' h
  rintro (hodd | hend)
  · have := heven within
    omega
  · exact hafter hend

/-- The first run of a text at which a search stops. -/
structure IsFirst (r : MaximalRun b xs) : Prop where
  delimits : r.Delimits
  earlier : ∀ r' : MaximalRun b xs, r'.before.length < r.before.length → ¬ r'.Delimits

/-- The index of the brace that delimits: the last of an opening run, and the first of a
    closing one. -/
def delimiter (brace : Brace) (r : MaximalRun b xs) : Nat :=
  match brace with
  | .opening => r.before.length + r.length - 1
  | .closing => r.before.length

theorem delimiterIndex_eq (brace : Brace) (r : MaximalRun b xs) :
    brace.delimiterIndex r.length (r.before.length + r.length) = r.delimiter brace := by
  cases brace with
  | opening => rfl
  | closing => exact Nat.add_sub_cancel _ _

/-- There is one first run only. -/
theorem IsFirst.delimiter_eq {r r' : MaximalRun b xs} (h : r.IsFirst) (h' : r'.IsFirst)
    (brace : Brace) : r.delimiter brace = r'.delimiter brace := by
  have hlength : r.before.length = r'.before.length := by
    rcases Nat.lt_trichotomy r.before.length r'.before.length with hlt | heq | hlt
    · exact absurd h.delimits (h'.earlier r hlt)
    · exact heq
    · exact absurd h'.delimits (h.earlier r' hlt)
  have hbefore : r.before = r'.before := by
    rw [← r.take_before, ← r'.take_before, hlength]
  rw [← delimiterIndex_eq, ← delimiterIndex_eq, hlength, r.length_eq r' hbefore]

end MaximalRun

variable [DecidableEq α] {brace : Brace} {i run : Nat}

/-! ## The search -/

/-- A search that fails has passed even runs only. -/
theorem evenRuns_of_delimitingBraceFrom_eq_none {next : Nat}
    (h : delimitingBraceFrom brace b run next xs = none) :
    EvenRuns b (List.replicate run b ++ xs) := by
  induction xs generalizing run next with
  | nil =>
      rw [delimitingBraceFrom] at h
      split at h
      · next hrun =>
          rw [hrun]
          exact evenRuns_of_not_mem List.not_mem_nil
      · exact absurd h (Option.some_ne_none _)
  | cons x xs ih =>
      by_cases hx : x = b
      · rw [hx, delimitingBraceFrom_self] at h
        have := ih h
        rw [List.replicate_succ', List.append_assoc] at this
        rw [hx]
        exact this
      · by_cases hrun : run % 2 = 1
        · rw [delimitingBraceFrom_of_odd hx hrun] at h
          exact absurd h (Option.some_ne_none _)
        · rw [delimitingBraceFrom_of_even hx (by omega)] at h
          exact (evenRuns_replicate (by omega)).append_cons hx (ih h)

/-- **The search fails exactly where no run is odd or reaches the end.** -/
theorem delimitingBrace?_eq_none_iff :
    delimitingBrace? brace b xs = none ↔ ∀ r : MaximalRun b xs, ¬ r.Delimits := by
  constructor
  · rintro h r (hodd | hend)
    · have heven := evenRuns_of_delimitingBraceFrom_eq_none h r
      exact absurd hodd (by omega)
    · refine getLast?_ne_of_delimitingBrace?_eq_none h ?_
      rw [← r.text_eq, hend, List.append_nil]
      exact getLast?_append_replicate _ (Nat.ne_of_gt r.length_pos)
  · intro h
    cases hfound : delimitingBrace? brace b xs with
    | none => rfl
    | some i =>
        obtain ⟨r, hdelimits, -, -⟩ := exists_delimiting_run hfound
        exact absurd hdelimits (h r)

/-- **What the search finds is the delimiting brace of the first such run.** -/
theorem delimitingBrace?_eq_some_iff :
    delimitingBrace? brace b xs = some i ↔
      ∃ r : MaximalRun b xs, r.IsFirst ∧ i = r.delimiter brace := by
  have hsound : ∀ j, delimitingBrace? brace b xs = some j →
      ∃ r : MaximalRun b xs, r.IsFirst ∧ j = r.delimiter brace := by
    intro j hj
    obtain ⟨r, hdelimits, hindex, heven⟩ := exists_delimiting_run hj
    exact ⟨r, ⟨hdelimits, fun r' => MaximalRun.not_delimits_of_evenRuns heven⟩,
      hindex.trans (r.delimiterIndex_eq brace)⟩
  constructor
  · exact hsound i
  · rintro ⟨r, hr, rfl⟩
    cases hfound : delimitingBrace? brace b xs with
    | none => exact absurd hr.delimits (delimitingBrace?_eq_none_iff.mp hfound r)
    | some j =>
        obtain ⟨r', hr', rfl⟩ := hsound j hfound
        rw [hr'.delimiter_eq hr]

theorem delimiterIndex_add (brace : Brace) (offset : Nat) {next : Nat} (hrun : run ≠ 0)
    (hle : run ≤ next) :
    brace.delimiterIndex run (offset + next) = offset + brace.delimiterIndex run next := by
  cases brace with
  | opening => exact Nat.add_sub_assoc (by omega) offset
  | closing => exact Nat.add_sub_assoc hle offset

/-- A search that starts further on finds the same brace further on. -/
theorem delimitingBraceFrom_add (offset : Nat) {next : Nat} (hle : run ≤ next) :
    delimitingBraceFrom brace b run (offset + next) xs
      = (delimitingBraceFrom brace b run next xs).map (offset + ·) := by
  induction xs generalizing run next with
  | nil =>
      rw [delimitingBraceFrom, delimitingBraceFrom]
      by_cases hzero : run = 0
      · rw [if_pos hzero, if_pos hzero]
        rfl
      · rw [if_neg hzero, if_neg hzero, delimiterIndex_add brace offset hzero hle]
        rfl
  | cons x xs ih =>
      by_cases hx : x = b
      · rw [hx, delimitingBraceFrom_self, delimitingBraceFrom_self]
        exact ih (Nat.succ_le_succ hle)
      · by_cases hrun : run % 2 = 1
        · rw [delimitingBraceFrom_of_odd hx hrun, delimitingBraceFrom_of_odd hx hrun,
            delimiterIndex_add brace offset (by omega) hle]
          rfl
        · rw [delimitingBraceFrom_of_even hx (by omega), delimitingBraceFrom_of_even hx (by omega)]
          exact ih (Nat.zero_le (next + 1))

/-! ## One pass -/

/-- The rest of a pass over a window that ends at `stop`.  The place `next` is reached,
    `run` braces stand just before it, and `found` is the tentative result. -/
def sweep (brace : Brace) (b : α) (stop run found next : Nat) : List α → Nat
  | [] => found
  | x :: xs =>
    if 0 < run ∧ x ≠ b then
      if run % 2 = 0 then sweep brace b stop 0 stop (next + 1) xs else found
    else if x = b then
      let found := if brace = .opening ∨ run = 0 then next else found
      sweep brace b stop (run + 1) found (next + 1) xs
    else sweep brace b stop run found (next + 1) xs

/-- The tentative result: what the run would delimit with if it ended here. -/
def tentative (brace : Brace) (stop run next : Nat) : Nat :=
  if run = 0 then stop else brace.delimiterIndex run next

/-- One brace more leaves the result of an opening run at its last brace and that of a
    closing run at its first. -/
theorem tentative_succ (brace : Brace) (stop run next : Nat) :
    tentative brace stop (run + 1) (next + 1)
      = if brace = .opening ∨ run = 0 then next else tentative brace stop run next := by
  rw [tentative, if_neg (Nat.succ_ne_zero run)]
  cases brace with
  | opening => rfl
  | closing =>
      show next + 1 - (run + 1) = _
      rw [Nat.add_sub_add_right]
      by_cases hzero : run = 0
      · rw [if_pos (.inr hzero), hzero, Nat.sub_zero]
      · rw [if_neg (by simp [hzero]), tentative, if_neg hzero]
        rfl

/-- **A pass ends with what the search finds**, and with `stop` where it fails. -/
theorem sweep_eq (brace : Brace) (stop run next : Nat) (xs : List α) :
    sweep brace b stop run (tentative brace stop run next) next xs
      = (delimitingBraceFrom brace b run next xs).getD stop := by
  induction xs generalizing run next with
  | nil =>
      rw [sweep, tentative, delimitingBraceFrom]
      split
      · rfl
      · rfl
  | cons x xs ih =>
      rw [sweep]
      by_cases hx : x = b
      · rw [if_neg fun h => h.2 hx, if_pos hx, hx, delimitingBraceFrom_self, ← ih, tentative_succ]
      · by_cases hzero : run = 0
        · subst hzero
          rw [if_neg fun h => Nat.lt_irrefl 0 h.1, if_neg hx,
            delimitingBraceFrom_of_even hx rfl, ← ih]
          rfl
        · rw [if_pos ⟨Nat.pos_of_ne_zero hzero, hx⟩]
          by_cases hrun : run % 2 = 0
          · rw [if_pos hrun, delimitingBraceFrom_of_even hx hrun, ← ih]
            rfl
          · rw [if_neg hrun, delimitingBraceFrom_of_odd hx (by omega), tentative, if_neg hzero]
            rfl

/-- The place of the delimiting brace among those from `first` up to `stop`, found in one
    pass, or `stop` if there is none. -/
def delimiterBetween (brace : Brace) (b : α) (xs : List α) (first stop : Nat) : Nat :=
  sweep brace b stop 0 stop first ((xs.take stop).drop first)

/-- The one pass over a window ends at the window's first delimiting brace. -/
theorem delimiterBetween_eq (brace : Brace) (b : α) (xs : List α) (first stop : Nat) :
    delimiterBetween brace b xs first stop
      = (delimitingBrace? brace b ((xs.take stop).drop first)).elim stop (first + ·) := by
  have hpass : sweep brace b stop 0 stop first ((xs.take stop).drop first)
      = (delimitingBraceFrom brace b 0 first ((xs.take stop).drop first)).getD stop :=
    sweep_eq brace stop 0 first _
  have hshift : delimitingBraceFrom brace b 0 first ((xs.take stop).drop first)
      = (delimitingBrace? brace b ((xs.take stop).drop first)).map (first + ·) :=
    delimitingBraceFrom_add first (Nat.le_refl 0)
  rw [hshift] at hpass
  rw [delimiterBetween]
  refine hpass.trans ?_
  cases delimitingBrace? brace b ((xs.take stop).drop first) with
  | none => rfl
  | some i => rfl

end Search

/-- The byte of a brace. -/
def Brace.byte (brace : Brace) : UInt8 :=
  brace.char.toUInt8

/-- **A pass over the bytes of a window finds exactly the first delimiting brace.**  It ends
    where the search does: at `stop` just if no run of the window is odd or reaches its
    end, and else, of the first such run, at the last brace if it opens and at the
    first if it closes. -/
theorem delimiterBetween_exact (brace : Brace) (bytes : List UInt8) (first stop : Nat) :
    let window := (bytes.take stop).drop first
    let found := delimiterBetween brace brace.byte bytes first stop
    found = (delimitingBrace? brace brace.byte window).elim stop (first + ·) ∧
      (found = stop ↔ ∀ r : MaximalRun brace.byte window, ¬ r.Delimits) ∧
      ((∃ r : MaximalRun brace.byte window, r.Delimits) →
        ∃ r : MaximalRun brace.byte window, r.IsFirst) ∧
      ∀ r : MaximalRun brace.byte window, r.IsFirst → found = first + r.delimiter brace := by
  intro window found
  have hfound : found = (delimitingBrace? brace brace.byte window).elim stop (first + ·) :=
    delimiterBetween_eq brace brace.byte bytes first stop
  refine ⟨hfound, ?_, ?_, ?_⟩
  · have hfails : delimitingBrace? brace brace.byte window = none ↔
        ∀ r : MaximalRun brace.byte window, ¬ r.Delimits := delimitingBrace?_eq_none_iff
    rw [← hfails, hfound]
    cases hsearch : delimitingBrace? brace brace.byte window with
    | none => exact iff_of_true rfl rfl
    | some i =>
        refine iff_of_false ?_ (Option.some_ne_none i)
        have hlt : i < window.length := delimitingBrace?_lt hsearch
        rw [List.length_drop, List.length_take] at hlt
        show first + i ≠ stop
        omega
  · rintro ⟨r, hr⟩
    cases hsearch : delimitingBrace? brace brace.byte window with
    | none => exact absurd hr (delimitingBrace?_eq_none_iff.mp hsearch r)
    | some i =>
        obtain ⟨r', hr', -⟩ := delimitingBrace?_eq_some_iff.mp hsearch
        exact ⟨r', hr'⟩
  · intro r hr
    rw [hfound, delimitingBrace?_eq_some_iff.mpr ⟨r, hr, rfl⟩]
    rfl

/-- A window that starts within an odd run has an even one left. -/
example :
    delimiterBetween .opening '{' ['{', '{', '{', 'a'] 0 4 = 2 ∧
      delimiterBetween .opening '{' ['{', '{', '{', 'a'] 1 4 = 4 := by
  decide

end StructuredLog.Template
