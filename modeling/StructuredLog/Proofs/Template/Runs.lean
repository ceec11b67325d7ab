import StructuredLog.Proofs.Template.Skeleton
import StructuredLog.Template.Placeholder

/-! # Runs — which braces are escapes

    Equal braces side by side form a run, and a run of even length is meant as a
    row of escapes.  The search for a delimiting brace keeps to this except at
    the end of the text: it stops at a run that has an odd length *or touches
    the end* (`exists_delimiting_run`).

    So in a template whose opening runs are all even there is no placeholder,
    but one that ends in an opening brace still counts as malformed; and the
    closing brace of a placeholder is the first brace of a closing run that is
    odd or stands at the very end (`even_runs_are_escapes`). -/

namespace StructuredLog.Template

section Search

variable {α : Type} {b : α} {xs : List α}

/-- A run of `b`s in a text with no further `b` beside it. -/
structure MaximalRun (b : α) (xs : List α) where
  before : List α
  length : Nat
  after : List α
  length_pos : 0 < length
  text_eq : before ++ (List.replicate length b ++ after) = xs
  before_ends : before.getLast? ≠ some b
  after_starts : after.head? ≠ some b

/-- Two runs at the start of a text are one, if neither can be prolonged. -/
theorem replicate_append_inj {m n : Nat} {as bs : List α} (has : as.head? ≠ some b)
    (hbs : bs.head? ≠ some b) (h : List.replicate m b ++ as = List.replicate n b ++ bs) :
    m = n ∧ as = bs := by
  induction m generalizing n with
  | zero =>
      cases n with
      | zero => exact ⟨rfl, h⟩
      | succ n => exact absurd (congrArg List.head? h) has
  | succ m ih =>
      cases n with
      | zero => exact absurd (congrArg List.head? h.symm) hbs
      | succ n =>
          obtain ⟨hlength, hrest⟩ := ih (List.cons.inj h).2
          exact ⟨congrArg (· + 1) hlength, hrest⟩

theorem getLast?_append_replicate (as : List α) {n : Nat} (hn : n ≠ 0) :
    (as ++ List.replicate n b).getLast? = some b := by
  rw [List.getLast?_append, List.getLast?_replicate, if_neg hn]
  rfl

/-- All runs in the text have an even length. -/
def EvenRuns (b : α) (xs : List α) : Prop :=
  ∀ r : MaximalRun b xs, r.length % 2 = 0

namespace MaximalRun

/-- Whether the search for a delimiting brace stops at the run. -/
def Delimits (r : MaximalRun b xs) : Prop :=
  r.length % 2 = 1 ∨ r.after = []

/-- The run in a longer text, whose additional start does not prolong it. -/
def prepend (r : MaximalRun b xs) (ys : List α) (h : ys.getLast? ≠ some b) :
    MaximalRun b (ys ++ xs) where
  before := ys ++ r.before
  length := r.length
  after := r.after
  length_pos := r.length_pos
  text_eq := by rw [List.append_assoc, r.text_eq]
  before_ends := by
    have hbefore := r.before_ends
    rw [List.getLast?_append]
    cases hlast : r.before.getLast? with
    | none => exact h
    | some x =>
        rw [hlast] at hbefore
        exact hbefore
  after_starts := r.after_starts

theorem mem (r : MaximalRun b xs) : b ∈ xs := by
  rw [← r.text_eq]
  refine List.mem_append_right _ (List.mem_append_left _ ?_)
  exact List.mem_replicate.mpr ⟨Nat.ne_of_gt r.length_pos, rfl⟩

theorem take_before (r : MaximalRun b xs) : xs.take r.before.length = r.before := by
  have htake := congrArg (List.take r.before.length) r.text_eq
  rw [List.take_left] at htake
  exact htake.symm

theorem drop_before (r : MaximalRun b xs) : xs.drop (r.before.length + r.length) = r.after := by
  have hdrop := congrArg (List.drop (r.before.length + r.length)) r.text_eq
  have hlength : (r.before ++ List.replicate r.length b).length = r.before.length + r.length := by
    rw [List.length_append, List.length_replicate]
  rw [← List.append_assoc, ← hlength, List.drop_left, hlength] at hdrop
  exact hdrop.symm

/-- A maximal run is determined by its place. -/
theorem length_eq (r r' : MaximalRun b xs) (h : r.before = r'.before) :
    r.length = r'.length := by
  have htext := r.text_eq.trans r'.text_eq.symm
  rw [h] at htext
  exact (replicate_append_inj r.after_starts r'.after_starts (List.append_cancel_left htext)).1

/-- Equal braces and nothing else are a single run. -/
theorem length_of_eq_replicate {n : Nat} (hxs : xs = List.replicate n b) (r : MaximalRun b xs) :
    r.length = n := by
  have hbefore : r.before = [] := by
    cases hlast : r.before.getLast? with
    | none => exact List.getLast?_eq_none_iff.mp hlast
    | some x =>
        have hmem : x ∈ xs := by
          rw [← r.take_before] at hlast
          exact List.mem_of_mem_take (List.mem_of_getLast? hlast)
        have hx : x = b := List.eq_of_mem_replicate (hxs ▸ hmem)
        rw [hx] at hlast
        exact absurd hlast r.before_ends
  have htext := r.text_eq.trans hxs
  rw [hbefore, List.nil_append, ← List.append_nil (List.replicate n b)] at htext
  have hnil : ([] : List α).head? ≠ some b := (Option.some_ne_none b).symm
  exact (replicate_append_inj r.after_starts hnil htext).1

/-- A run does not stretch over a place where one of the neighbours differs from it. -/
theorem length_of_append {ys : List α} (r : MaximalRun b (xs ++ ys))
    (h : xs.getLast? ≠ some b ∨ ys.head? ≠ some b) :
    (∃ r' : MaximalRun b xs, r'.length = r.length) ∨
      ∃ r' : MaximalRun b ys, r'.length = r.length := by
  rcases List.append_eq_append_iff.mp r.text_eq with ⟨middle, hxs, hrun⟩ | ⟨middle, hbefore, hys⟩
  · rcases List.append_eq_append_iff.mp hrun with ⟨tail, hmiddle, hafter⟩ | ⟨tail, hparts, hys⟩
    · refine .inl ⟨⟨r.before, r.length, tail, r.length_pos, ?_, r.before_ends, ?_⟩, rfl⟩
      · exact (congrArg (r.before ++ ·) hmiddle.symm).trans hxs.symm
      · intro hhead
        refine r.after_starts ?_
        rw [hafter, List.head?_append, hhead]
        rfl
    · -- both neighbours are in the run, unless one of its two parts is empty
      obtain ⟨hlength, hmiddle, htail⟩ := List.replicate_eq_append_iff.mp hparts
      cases middle with
      | nil =>
          refine .inr ⟨⟨[], r.length, r.after, r.length_pos, hrun, ?_, r.after_starts⟩, rfl⟩
          exact (Option.some_ne_none b).symm
      | cons x middle =>
          cases tail with
          | nil =>
              rw [List.length_nil, Nat.add_zero] at hlength
              refine .inl ⟨⟨r.before, r.length, [], r.length_pos, ?_, r.before_ends, ?_⟩, rfl⟩
              · rw [List.append_nil, ← hlength, ← hmiddle]
                exact hxs.symm
              · exact (Option.some_ne_none b).symm
          | cons y tail =>
              exfalso
              rcases h with hlast | hhead
              · refine hlast ?_
                rw [hxs, hmiddle]
                exact getLast?_append_replicate _ (Nat.succ_ne_zero _)
              · refine hhead ?_
                rw [hys, htail]
                rfl
  · refine .inr ⟨⟨middle, r.length, r.after, r.length_pos, hys.symm, ?_, r.after_starts⟩, rfl⟩
    intro hlast
    refine r.before_ends ?_
    rw [hbefore, List.getLast?_append, hlast]
    rfl

end MaximalRun

theorem evenRuns_of_not_mem (h : b ∉ xs) : EvenRuns b xs :=
  fun r => absurd r.mem h

theorem evenRuns_replicate {n : Nat} (hn : n % 2 = 0) : EvenRuns b (List.replicate n b) := by
  intro r
  rw [r.length_of_eq_replicate rfl]
  exact hn

theorem EvenRuns.append {ys : List α} (hxs : EvenRuns b xs) (hys : EvenRuns b ys)
    (h : xs.getLast? ≠ some b ∨ ys.head? ≠ some b) : EvenRuns b (xs ++ ys) := by
  intro r
  rcases r.length_of_append h with ⟨r', hlength⟩ | ⟨r', hlength⟩
  · rw [← hlength]
    exact hxs r'
  · rw [← hlength]
    exact hys r'

/-- What is no brace parts the runs on its two sides. -/
theorem EvenRuns.append_cons {x : α} {ys : List α} (hxs : EvenRuns b xs) (hx : x ≠ b)
    (hys : EvenRuns b ys) : EvenRuns b (xs ++ x :: ys) := by
  have hone : EvenRuns b [x] := evenRuns_of_not_mem fun hb => hx (List.mem_singleton.mp hb).symm
  refine hxs.append (hone.append hys (.inl ?_)) (.inr ?_)
  · exact fun hlast => hx (Option.some.inj hlast)
  · exact fun hhead => hx (Option.some.inj hhead)

variable [DecidableEq α] {brace : Brace} {i run : Nat}

/-- The search stops at a run, of which `run` braces may already be passed, and passes
    even runs only. -/
theorem exists_delimiting_runFrom (before : List α) (hbefore : before.getLast? ≠ some b)
    (heven : EvenRuns b before)
    (h : delimitingBraceFrom brace b run (before.length + run) xs = some i) :
    ∃ r : MaximalRun b (before ++ (List.replicate run b ++ xs)),
      r.Delimits ∧ i = brace.delimiterIndex r.length (r.before.length + r.length) ∧
        EvenRuns b r.before := by
  induction xs generalizing before run with
  | nil =>
      rw [delimitingBraceFrom] at h
      split at h
      · exact absurd h.symm (Option.some_ne_none i)
      · next hrun =>
          refine ⟨⟨before, run, [], Nat.pos_of_ne_zero hrun, rfl, hbefore, ?_⟩, .inr rfl, ?_,
            heven⟩
          · exact (Option.some_ne_none b).symm
          · exact (Option.some.inj h).symm
  | cons x xs ih =>
      by_cases hx : x = b
      · rw [hx] at h ⊢
        rw [delimitingBraceFrom_self, Nat.add_assoc] at h
        have hone : List.replicate run b ++ b :: xs = List.replicate (run + 1) b ++ xs := by
          rw [List.replicate_succ', List.append_assoc]
          rfl
        rw [hone]
        exact ih before hbefore heven h
      · by_cases hrun : run % 2 = 1
        · rw [delimitingBraceFrom_of_odd hx hrun] at h
          refine ⟨⟨before, run, x :: xs, by omega, rfl, hbefore, ?_⟩, .inl hrun, ?_, heven⟩
          · exact fun hhead => hx (Option.some.inj hhead)
          · exact (Option.some.inj h).symm
        · rw [delimitingBraceFrom_of_even hx (by omega)] at h
          -- an even run is passed, and `x` parts it from what comes later
          have hlast : (before ++ (List.replicate run b ++ [x])).getLast? ≠ some b := by
            rw [← List.append_assoc, List.getLast?_append]
            exact fun hlast => hx (Option.some.inj hlast)
          have hpassed : EvenRuns b (before ++ (List.replicate run b ++ [x])) := by
            refine heven.append ?_ (.inl hbefore)
            exact (evenRuns_replicate (by omega)).append_cons hx
              (evenRuns_of_not_mem List.not_mem_nil)
          have hlength : (before ++ (List.replicate run b ++ [x])).length + 0
              = before.length + run + 1 := by
            simp only [List.length_append, List.length_replicate, List.length_singleton]
            omega
          rw [← hlength] at h
          have hrest := ih _ hlast hpassed h
          rw [List.append_assoc, List.append_assoc] at hrest
          exact hrest

/-- **The search stops at the first run of odd length, or at the end of the text**, at the
    last brace of an opening run and at the first of a closing one. -/
theorem exists_delimiting_run (h : delimitingBrace? brace b xs = some i) :
    ∃ r : MaximalRun b xs,
      r.Delimits ∧ i = brace.delimiterIndex r.length (r.before.length + r.length) ∧
        EvenRuns b r.before := by
  have hstart : delimitingBraceFrom brace b 0 (([] : List α).length + 0) xs = some i := h
  exact exists_delimiting_runFrom [] (Option.some_ne_none b).symm
    (evenRuns_of_not_mem List.not_mem_nil) hstart

/-- The search never fails in a text that ends in a brace. -/
theorem getLast?_ne_of_delimitingBraceFrom_eq_none {next : Nat}
    (h : delimitingBraceFrom brace b run next xs = none) :
    (List.replicate run b ++ xs).getLast? ≠ some b := by
  induction xs generalizing run next with
  | nil =>
      rw [delimitingBraceFrom] at h
      split at h
      · next hrun =>
          rw [hrun]
          exact (Option.some_ne_none b).symm
      · exact absurd h (Option.some_ne_none _)
  | cons x xs ih =>
      by_cases hx : x = b
      · rw [hx] at h ⊢
        rw [delimitingBraceFrom_self] at h
        have := ih h
        rw [List.replicate_succ', List.append_assoc] at this
        exact this
      · by_cases hrun : run % 2 = 1
        · rw [delimitingBraceFrom_of_odd hx hrun] at h
          exact absurd h (Option.some_ne_none _)
        · rw [delimitingBraceFrom_of_even hx (by omega)] at h
          have hrest : xs.getLast? ≠ some b := ih h
          rw [List.getLast?_append, List.getLast?_cons]
          cases hlast : xs.getLast? with
          | none => exact fun heq => hx (Option.some.inj heq)
          | some y =>
              rw [hlast] at hrest
              exact hrest

theorem getLast?_ne_of_delimitingBrace?_eq_none (h : delimitingBrace? brace b xs = none) :
    xs.getLast? ≠ some b := by
  rw [delimitingBrace?] at h
  exact getLast?_ne_of_delimitingBraceFrom_eq_none h

end Search

/-! ## Openings -/

theorem cut_of_unopened {cs : List Char} (h : delimitingBrace? .opening '{' cs = none) :
    cut cs = ⟨[], cs, true⟩ := by
  rw [cut]
  split
  · rfl
  · next i hsome => exact absurd (hsome.symm.trans h) (Option.some_ne_none i)

theorem cut_of_left_open {cs : List Char} {i : Nat}
    (hopen : delimitingBrace? .opening '{' cs = some i)
    (hclose : delimitingBrace? .closing '}' (cs.drop (i + 1)) = none) :
    cut cs = ⟨[], cs, false⟩ := by
  rw [cut]
  split
  · next hnone => exact absurd (hopen.symm.trans hnone) (Option.some_ne_none i)
  · next i' hsome =>
      obtain rfl : i = i' := Option.some.inj (hopen.symm.trans hsome)
      simp only [hclose]

/-- **Even opening runs open nothing** but the end of the text, where no placeholder
    can follow. -/
theorem cut_of_even_runs {cs : List Char} (h : ∀ r : MaximalRun '{' cs, r.length % 2 = 0) :
    (cut cs).holes = [] ∧ ((cut cs).terminated = false ↔ cs.getLast? = some '{') := by
  cases hopen : delimitingBrace? .opening '{' cs with
  | none =>
      rw [cut_of_unopened hopen]
      exact ⟨rfl, iff_of_false Bool.noConfusion (getLast?_ne_of_delimitingBrace?_eq_none hopen)⟩
  | some i =>
      obtain ⟨r, hdelimits, hi, -⟩ := exists_delimiting_run hopen
      have hpos := r.length_pos
      have hend : r.after = [] := by
        rcases hdelimits with hodd | hend
        · have := h r
          omega
        · exact hend
      have htext : cs = r.before ++ List.replicate r.length '{' := by
        have := r.text_eq
        rw [hend, List.append_nil] at this
        exact this.symm
      have hrest : cs.drop (i + 1) = [] := by
        refine List.drop_eq_nil_of_le ?_
        rw [htext, List.length_append, List.length_replicate, hi]
        show _ ≤ r.before.length + r.length - 1 + 1
        omega
      rw [cut_of_left_open hopen (by rw [hrest]; rfl)]
      refine ⟨rfl, iff_of_true rfl ?_⟩
      rw [htext]
      exact getLast?_append_replicate _ (Nat.ne_of_gt hpos)

/-! ## Closings -/

/-- The closing brace of each placeholder starts a run at which the search stops.  The
    search for it begins just after an opening brace, so the run is maximal in the
    whole text, whatever was scanned before. -/
theorem exists_closing_run (scanned cs : List Char) (position : Nat) {p : Placeholder}
    (hp : p ∈ placeholdersFrom position (Text.utf8Length scanned) (cut cs).holes) :
    ∃ r : MaximalRun '}' (scanned ++ cs),
      p.stop = Text.utf8Length r.before + 1 ∧ r.Delimits := by
  fun_induction cut cs generalizing scanned position with
  | case1 => exact absurd hp List.not_mem_nil
  | case2 => exact absurd hp List.not_mem_nil
  | case3 cs i hopen inside j hclose later ih =>
      have hcs : cs = cs.take i ++ '{' :: inside := eq_append_of_delimitingBrace? hopen
      have hinside : inside = inside.take j ++ '}' :: inside.drop (j + 1) :=
        eq_append_of_delimitingBrace? hclose
      rcases List.mem_cons.mp hp with rfl | hlater
      · obtain ⟨r, hdelimits, hj, -⟩ := exists_delimiting_run hclose
        have hbefore : inside.take j = r.before := by
          have hlength : j = r.before.length := by
            rw [hj]
            exact Nat.add_sub_cancel _ _
          rw [hlength, r.take_before]
        have hopened : (scanned ++ (cs.take i ++ ['{'])).getLast? ≠ some '}' := by
          rw [← List.append_assoc, List.getLast?_append]
          exact fun hlast => absurd (Option.some.inj hlast) (by decide)
        have htext : scanned ++ cs = (scanned ++ (cs.take i ++ ['{'])) ++ inside := by
          rw [List.append_assoc, List.append_assoc]
          exact congrArg (scanned ++ ·) hcs
        rw [htext]
        refine ⟨r.prepend _ hopened, ?_, hdelimits⟩
        show Text.utf8Length scanned
            + Text.utf8Length (cs.take i ++ ('{' :: inside.take j ++ ['}']))
          = Text.utf8Length ((scanned ++ (cs.take i ++ ['{'])) ++ r.before) + 1
        have hone : Char.utf8Size '{' = 1 ∧ Char.utf8Size '}' = 1 := by decide
        simp only [hbefore, Text.utf8Length_append, Text.utf8Length_cons, Text.utf8Length_nil,
          List.cons_append, hone.1, hone.2]
        omega
      · have htext : scanned ++ cs
            = (scanned ++ Hole.chars ⟨cs.take i, inside.take j⟩) ++ inside.drop (j + 1) := by
          show _ = (scanned ++ (cs.take i ++ ('{' :: inside.take j ++ ['}']))) ++ _
          simp only [List.append_assoc, List.cons_append, List.nil_append]
          rw [← hinside, ← hcs]
        rw [htext]
        refine ih (scanned ++ Hole.chars ⟨cs.take i, inside.take j⟩) (position + 1) ?_
        rw [Text.utf8Length_append]
        exact hlater

/-! ## Escapes -/

/-- **Even runs are escapes, except at the end of the text.**  Where all opening runs are
    even there is no placeholder, and the template is malformed just if it ends in an
    opening brace; the closing brace of a placeholder is the first of a run that is odd
    or stands at the end. -/
theorem even_runs_are_escapes (template : String) :
    ((∀ r : MaximalRun '{' template.toList, r.length % 2 = 0) →
      placeholders template = [] ∧
        (isMalformed template = true ↔ template.toList.getLast? = some '{')) ∧
    ∀ p ∈ placeholders template, ∃ r : MaximalRun '}' template.toList,
      p.stop = Text.utf8Length r.before + 1 ∧ (r.length % 2 = 1 ∨ r.after = []) := by
  constructor
  · intro heven
    obtain ⟨hholes, hterminated⟩ := cut_of_even_runs heven
    constructor
    · rw [placeholders, hholes]
      rfl
    · rw [isMalformed, Bool.not_eq_true', hterminated]
  · intro p hp
    exact exists_closing_run [] template.toList 0 hp

/-- A place in a text is determined by its byte offset. -/
theorem eq_of_utf8Length_eq {as bs cs ds : List Char} (htext : as ++ cs = bs ++ ds)
    (hlength : Text.utf8Length as = Text.utf8Length bs) : as = bs := by
  induction as generalizing bs with
  | nil =>
      cases bs with
      | nil => rfl
      | cons y bs =>
          have hpos := y.utf8Size_pos
          simp only [Text.utf8Length_nil, Text.utf8Length_cons] at hlength
          omega
  | cons x as ih =>
      cases bs with
      | nil =>
          have hpos := x.utf8Size_pos
          simp only [Text.utf8Length_nil, Text.utf8Length_cons] at hlength
          omega
      | cons y bs =>
          obtain ⟨rfl, hrest⟩ := List.cons.inj htext
          exact congrArg (x :: ·) (ih hrest (Nat.add_left_cancel hlength))

/-- An even run at the end of the text is no escape: two opening braces open a
    placeholder there, and two closing ones close one. -/
theorem even_runs_delimit_at_end :
    (isMalformed "\x7b\x7b" = true ∧
      (∀ r : MaximalRun '{' "\x7b\x7b".toList, r.length % 2 = 0) ∧
      ∀ r : MaximalRun '}' "\x7b\x7b".toList, r.length % 2 = 0) ∧
    ∃ p ∈ placeholders "\x7ba\x7d\x7d", ∀ r : MaximalRun '}' "\x7ba\x7d\x7d".toList,
      p.stop = Text.utf8Length r.before + 1 → r.length % 2 = 0 := by
  refine ⟨⟨by decide +kernel, ?_, ?_⟩, ⟨"a", 0, 0, 3, none⟩, by decide +kernel, ?_⟩
  · intro r
    rw [r.length_of_eq_replicate (show _ = List.replicate 2 '{' by decide)]
  · intro r
    exact absurd r.mem (by decide)
  · intro r hstop
    have hoffset : 3 = Text.utf8Length r.before + 1 := hstop
    let twice : MaximalRun '}' "\x7ba\x7d\x7d".toList :=
      ⟨['{', 'a'], 2, [], by decide, by decide, by decide, by decide⟩
    have hbefore : r.before = twice.before := by
      refine eq_of_utf8Length_eq (r.text_eq.trans twice.text_eq.symm) ?_
      have htwice : Text.utf8Length twice.before = 2 := by decide
      omega
    have hlength : r.length = 2 := r.length_eq twice hbefore
    rw [hlength]

end StructuredLog.Template
