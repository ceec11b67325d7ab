/-! # Brace runs — finding a brace that is not an escape

    A doubled brace is an escape, so only a run of equal braces of odd length
    can delimit a placeholder.  An opening run opens at its last brace, a
    closing run closes at its first brace.  A run that touches the end of the
    text counts as odd whatever its length.

    The search works on any alphabet with decidable equality: on characters
    here, and in the same way on the bytes of an encoding. -/

namespace StructuredLog.Template

/-- The two kinds of brace. -/
inductive Brace where
  | opening
  | closing
  deriving DecidableEq, Repr

namespace Brace

/-- The character of the brace. -/
def char : Brace → Char
  | .opening => '{'
  | .closing => '}'

/-- Of a run of `run` braces that ends just before index `next`, the index of
    the brace that delimits: the last of an opening run, the first of a
    closing one. -/
def delimiterIndex (brace : Brace) (run next : Nat) : Nat :=
  match brace with
  | .opening => next - 1
  | .closing => next - run

end Brace

variable {α : Type} [DecidableEq α]

/-- The search of `delimitingBrace?` from index `next` on, when `run` braces stand
    just before it. -/
def delimitingBraceFrom (brace : Brace) (b : α) (run next : Nat) : List α → Option Nat
  | [] => if run = 0 then none else some (brace.delimiterIndex run next)
  | x :: xs =>
    if x = b then delimitingBraceFrom brace b (run + 1) (next + 1) xs
    else if run % 2 = 1 then some (brace.delimiterIndex run next)
    else delimitingBraceFrom brace b 0 (next + 1) xs

/-- The index of the first brace `b` that is not an escape. -/
def delimitingBrace? (brace : Brace) (b : α) (xs : List α) : Option Nat :=
  delimitingBraceFrom brace b 0 0 xs

theorem delimitingBraceFrom_lt {brace : Brace} {b : α} {xs : List α} {run next i : Nat}
    (hrun : run ≤ next) (h : delimitingBraceFrom brace b run next xs = some i) :
    i < next + xs.length := by
  induction xs generalizing run next with
  | nil =>
      simp only [delimitingBraceFrom] at h
      split at h
      · exact nomatch h
      · cases brace <;> simp only [Brace.delimiterIndex, Option.some.injEq] at h <;>
          simp only [List.length_nil] <;> omega
  | cons x xs ih =>
      simp only [delimitingBraceFrom] at h
      simp only [List.length_cons]
      split at h
      · have := ih (by omega) h
        omega
      · split at h
        · cases brace <;> simp only [Brace.delimiterIndex, Option.some.injEq] at h <;> omega
        · have := ih (by omega) h
          omega

/-- A brace that was found stands within the text. -/
theorem delimitingBrace?_lt {brace : Brace} {b : α} {xs : List α} {i : Nat}
    (h : delimitingBrace? brace b xs = some i) : i < xs.length := by
  have := delimitingBraceFrom_lt (Nat.le_refl 0) h
  omega

theorem delimitingBraceFrom_getElem? {brace : Brace} {b : α} {xs : List α} {run i : Nat}
    (before : List α) (hrun : run ≤ before.length)
    (hb : ∀ k, before.length - run ≤ k → k < before.length → before[k]? = some b)
    (h : delimitingBraceFrom brace b run before.length xs = some i) :
    (before ++ xs)[i]? = some b := by
  induction xs generalizing before run with
  | nil =>
      simp only [delimitingBraceFrom] at h
      split at h
      · exact nomatch h
      · rw [List.append_nil]
        cases brace <;> simp only [Brace.delimiterIndex, Option.some.injEq] at h <;>
          exact hb i (by omega) (by omega)
  | cons x xs ih =>
      simp only [delimitingBraceFrom] at h
      have hlen : (before ++ [x]).length = before.length + 1 := by simp
      split at h
      case isTrue hx =>
        rw [← hlen] at h
        have := ih (before ++ [x]) (by omega) (fun k hk hlt => by
          by_cases hlast : k < before.length
          · rw [List.getElem?_append_left hlast]
            exact hb k (by omega) hlast
          · have : k = before.length := by omega
            subst this
            simp [hx]) h
        simpa using this
      case isFalse =>
        split at h
        · rw [List.getElem?_append_left (by
            cases brace <;> simp only [Brace.delimiterIndex, Option.some.injEq] at h <;> omega)]
          cases brace <;> simp only [Brace.delimiterIndex, Option.some.injEq] at h <;>
            exact hb i (by omega) (by omega)
        · rw [← hlen] at h
          have := ih (before ++ [x]) (by omega)
            (fun k hk hlt => by omega) h
          simpa using this

/-- What is found is a brace. -/
theorem delimitingBrace?_getElem? {brace : Brace} {b : α} {xs : List α} {i : Nat}
    (h : delimitingBrace? brace b xs = some i) : xs[i]? = some b :=
  delimitingBraceFrom_getElem? [] (Nat.le_refl 0) (fun k _ hlt => absurd hlt (by simp)) h

/-- The text around a brace that was found. -/
theorem eq_append_of_delimitingBrace? {brace : Brace} {b : α} {xs : List α} {i : Nat}
    (h : delimitingBrace? brace b xs = some i) : xs = xs.take i ++ b :: xs.drop (i + 1) := by
  have hi := delimitingBrace?_lt h
  have hb := delimitingBrace?_getElem? h
  rw [List.getElem?_eq_getElem hi, Option.some.injEq] at hb
  conv => lhs; rw [← List.take_append_drop i xs, List.drop_eq_getElem_cons hi, hb]

end StructuredLog.Template
