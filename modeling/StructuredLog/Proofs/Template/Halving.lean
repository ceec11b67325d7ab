import Mathlib.Data.List.SplitBy
import StructuredLog.Proofs.Template.RoundTrip
import StructuredLog.Proofs.Template.Runs

/-! # Halving — what unescaping leaves of a run of braces

    Escapes are undone in two passes, one for each brace.  Neither makes or
    breaks a pair for the other: a pass halves the runs of its own brace,
    rounding up, and a halved run still has its first character, so it keeps
    its neighbours apart.  A text is therefore unescaped run by run
    (`unescape_run`), and what holds of texts is shown for one run more
    (`run_induction`).

    Doubling the braces of a text makes all their runs even.  Unescaping halves
    them again, and even runs open no placeholder; so as a template the doubled
    text means the text it was made from (`unescape_halves_runs`). -/

namespace StructuredLog.Template

/-! ## Texts run by run -/

section Runs

variable {α : Type} [DecidableEq α]

/-- A text starts with a run of its first character that nothing prolongs. -/
theorem exists_first_run (c : α) (cs : List α) :
    ∃ n rest, 0 < n ∧ c :: cs = List.replicate n c ++ rest ∧ rest.head? ≠ some c := by
  induction cs with
  | nil => exact ⟨1, [], Nat.one_pos, rfl, (Option.some_ne_none c).symm⟩
  | cons x xs ih =>
      by_cases hx : x = c
      · subst hx
        obtain ⟨n, rest, -, heq, hrest⟩ := ih
        exact ⟨n + 1, rest, Nat.succ_pos n, congrArg (x :: ·) heq, hrest⟩
      · refine ⟨1, x :: xs, Nat.one_pos, rfl, ?_⟩
        intro hhead
        exact hx (Option.some.inj hhead)

/-- What holds of the empty text, and of each text that starts with one run more, holds
    of all texts. -/
@[elab_as_elim]
theorem run_induction {motive : List α → Prop} (cs : List α) (nil : motive [])
    (run : ∀ (c : α) (n : Nat) (rest : List α), 0 < n → rest.head? ≠ some c → motive rest →
      motive (List.replicate n c ++ rest)) : motive cs := by
  induction hlength : cs.length using Nat.strong_induction_on generalizing cs with
  | _ length ih =>
      cases cs with
      | nil => exact nil
      | cons c cs =>
          obtain ⟨n, rest, hn, heq, hrest⟩ := exists_first_run c cs
          have hshorter : rest.length < length := by
            rw [← hlength, heq, List.length_append, List.length_replicate]
            omega
          rw [heq]
          exact run c n rest hn hrest (ih rest.length hshorter rest rfl)

/-- The first of a text's runs. -/
theorem splitBy_run {c : α} {n : Nat} {rest : List α} (hn : 0 < n) (h : rest.head? ≠ some c) :
    (List.replicate n c ++ rest).splitBy (· == ·)
      = List.replicate n c :: rest.splitBy (· == ·) := by
  have hrun : (List.replicate n c).splitBy (· == ·) = [List.replicate n c] := by
    refine List.splitBy_of_isChain ?_ (List.isChain_replicate_of_rel n (beq_self_eq_true c))
    exact mt (List.replicate_eq_nil_iff c).mp (Nat.ne_of_gt hn)
  rw [List.splitBy_append, hrun, List.singleton_append]
  intro x hx y hy
  obtain rfl : x = c := List.eq_of_mem_replicate (List.mem_of_getLast? hx)
  refine beq_false_of_ne ?_
  rintro rfl
  exact h hy

end Runs

/-! ## Unescaping -/

theorem head?_mergePairs (b : Char) (cs : List Char) : (mergePairs b cs).head? = cs.head? := by
  fun_cases mergePairs b cs with
  | case1 x y rest h => exact congrArg some h.1.symm
  | case2 x y rest h => rfl
  | case3 => rfl

/-- A pass halves the runs of its brace and leaves all others. -/
theorem mergePairs_run (b : Char) {c : Char} (n : Nat) {rest : List Char}
    (h : rest.head? ≠ some c) :
    mergePairs b (List.replicate n c ++ rest)
      = List.replicate (if c = b then (n + 1) / 2 else n) c ++ mergePairs b rest := by
  by_cases hc : c = b
  · subst hc
    rw [if_pos rfl]
    induction n using Nat.twoStepInduction with
    | zero => rfl
    | one =>
        cases rest with
        | nil => rfl
        | cons x rest =>
            -- the last brace of an odd run has no partner
            show mergePairs c (c :: x :: rest) = c :: mergePairs c (x :: rest)
            rw [mergePairs, if_neg]
            rintro ⟨-, rfl⟩
            exact h rfl
    | more n ih _ =>
        have hhalf : (n + 2 + 1) / 2 = (n + 1) / 2 + 1 := by omega
        rw [hhalf]
        show mergePairs c (c :: c :: (List.replicate n c ++ rest)) = c :: _
        rw [mergePairs_pair, ih]
        rfl
  · rw [if_neg hc, mergePairs_append_of_not_mem]
    intro hmem
    exact hc (List.eq_of_mem_replicate hmem).symm

/-- Whether the character is a brace. -/
def isBrace (c : Char) : Bool :=
  c == '{' || c == '}'

/-- **A run of braces is halved**, rounding up, and a run of another character stays. -/
theorem unescape_run {c : Char} (n : Nat) {rest : List Char} (h : rest.head? ≠ some c) :
    unescape (List.replicate n c ++ rest)
      = List.replicate (if isBrace c then (n + 1) / 2 else n) c ++ unescape rest := by
  have hrest : (mergePairs '{' rest).head? ≠ some c := by
    rw [head?_mergePairs]
    exact h
  rw [unescape, mergePairs_run '{' n h, mergePairs_run '}' _ hrest]
  by_cases hopening : c = '{'
  · subst hopening
    rfl
  · by_cases hclosing : c = '}'
    · subst hclosing
      rfl
    · have hother : isBrace c = false := by
        rw [isBrace, beq_false_of_ne hopening, beq_false_of_ne hclosing]
        rfl
      rw [if_neg hopening, if_neg hclosing, hother]
      rfl

/-- What unescaping leaves of a run of equal characters: half of it, rounded up, if they
    are braces. -/
def halvedRun (run : List Char) : List Char :=
  if run.head?.any isBrace then run.take ((run.length + 1) / 2) else run

theorem halvedRun_replicate (c : Char) {n : Nat} (hn : 0 < n) :
    halvedRun (List.replicate n c)
      = List.replicate (if isBrace c then (n + 1) / 2 else n) c := by
  have hhead : (List.replicate n c).head? = some c := by
    rw [List.head?_replicate, if_neg (Nat.ne_of_gt hn)]
  rw [halvedRun, hhead, Option.any_some, List.length_replicate, List.take_replicate]
  split
  · rw [Nat.min_eq_left (by omega)]
  · rfl

/-- Unescaping goes through the runs of a text, one by one. -/
theorem unescape_eq_flatMap (cs : List Char) :
    unescape cs = (cs.splitBy (· == ·)).flatMap halvedRun := by
  induction cs using run_induction with
  | nil => rfl
  | run c n rest hn hrest ih =>
      rw [unescape_run n hrest, splitBy_run hn hrest, List.flatMap_cons, halvedRun_replicate c hn,
        ih]

example : unescape ['{', '{', '{', 'a', 'a', '}', '}', '{'] = ['{', '{', 'a', 'a', '}', '{'] := by
  decide

/-! ## Doubling -/

/-- The text with every brace written twice. -/
def doubleBraces (cs : List Char) : List Char :=
  cs.flatMap fun c => if isBrace c then [c, c] else [c]

theorem head?_doubleBraces (cs : List Char) : (doubleBraces cs).head? = cs.head? := by
  cases cs with
  | nil => rfl
  | cons c cs =>
      rw [doubleBraces, List.flatMap_cons]
      split
      · rfl
      · rfl

/-- Doubling doubles the runs of braces. -/
theorem doubleBraces_run (c : Char) (n : Nat) (rest : List Char) :
    doubleBraces (List.replicate n c ++ rest)
      = List.replicate (if isBrace c then 2 * n else n) c ++ doubleBraces rest := by
  rw [doubleBraces, List.flatMap_append, List.flatMap_replicate]
  refine congrArg (· ++ doubleBraces rest) ?_
  split
  · rw [show [c, c] = List.replicate 2 c from rfl, List.flatten_replicate_replicate, Nat.mul_comm]
  · rw [show [c] = List.replicate 1 c from rfl, List.flatten_replicate_replicate, Nat.mul_one]

/-- Unescaping undoes the doubling of braces. -/
theorem unescape_doubleBraces (cs : List Char) : unescape (doubleBraces cs) = cs := by
  induction cs using run_induction with
  | nil => rfl
  | run c n rest hn hrest ih =>
      have hdoubled : (doubleBraces rest).head? ≠ some c := by
        rw [head?_doubleBraces]
        exact hrest
      rw [doubleBraces_run, unescape_run _ hdoubled, ih]
      congr 2
      split
      · omega
      · rfl

/-- The runs of braces in a doubled text are even. -/
theorem evenRuns_doubleBraces {b : Char} (hb : isBrace b = true) (cs : List Char) :
    EvenRuns b (doubleBraces cs) := by
  induction cs using run_induction with
  | nil => exact evenRuns_of_not_mem List.not_mem_nil
  | run c n rest hn hrest ih =>
      rw [doubleBraces_run]
      by_cases hc : c = b
      · subst hc
        rw [if_pos hb]
        refine (evenRuns_replicate (Nat.mul_mod_right 2 n)).append ih (.inr ?_)
        rw [head?_doubleBraces]
        exact hrest
      · have hnot : ∀ m, b ∉ List.replicate m c :=
          fun m hmem => hc (List.eq_of_mem_replicate hmem).symm
        refine (evenRuns_of_not_mem (hnot _)).append ih (.inl ?_)
        exact fun hlast => hnot _ (List.mem_of_getLast? hlast)

/-- A doubled text is cut nowhere. -/
theorem cut_doubleBraces (cs : List Char) :
    (cut (doubleBraces cs)).holes = [] ∧ (cut (doubleBraces cs)).rest = doubleBraces cs := by
  have hholes : (cut (doubleBraces cs)).holes = [] :=
    (cut_of_even_runs (evenRuns_doubleBraces rfl cs)).1
  have hchars := chars_cut (doubleBraces cs)
  rw [Cut.chars, hholes] at hchars
  exact ⟨hholes, hchars⟩

theorem renderSegments_literalSegment (fill : Placeholder → Option String) (cs : List Char) :
    renderSegments fill (literalSegment cs) = .ok (String.ofList (unescape cs)) := by
  cases cs with
  | nil => rfl
  | cons c cs => exact congrArg Except.ok String.append_empty

/-- A text as a template: with every brace doubled. -/
def doubled (text : String) : String :=
  String.ofList (doubleBraces text.toList)

/-- **Unescaping halves the runs of braces**, rounding up, and leaves all else in place.
    So it undoes doubling; and a text with doubled braces has no placeholder and renders
    back to the text, whatever could fill one. -/
theorem unescape_halves_runs (text : String) :
    unescape text.toList = (text.toList.splitBy (· == ·)).flatMap halvedRun ∧
      unescape (doubled text).toList = text.toList ∧
      placeholders (doubled text) = [] ∧
      ∀ fill, renderSegments fill (segments (doubled text)) = .ok text := by
  obtain ⟨hholes, hrest⟩ := cut_doubleBraces text.toList
  have hchars : (doubled text).toList = doubleBraces text.toList := String.toList_ofList
  refine ⟨unescape_eq_flatMap text.toList, ?_, ?_, ?_⟩
  · rw [hchars]
    exact unescape_doubleBraces text.toList
  · rw [placeholders, hchars, hholes]
    rfl
  · intro fill
    rw [segments, hchars, hholes, hrest]
    show renderSegments fill (literalSegment _) = _
    rw [renderSegments_literalSegment, unescape_doubleBraces, String.ofList_toList]

end StructuredLog.Template
