import StructuredLog.Identifier.Basic

/-! # Parameter names — naming the arguments of a generated method

    The argument at position `i` is named after the `i`-th placeholder when that
    is an identifier, is not reserved, and is not taken.  Otherwise it is
    called `arg{i}`, or by the first of `arg{i}_2`, `arg{i}_3`, … that is not
    taken.  The names of the special parameters are taken from the start. -/

namespace StructuredLog.Identifier

/-- The parameter of the logger. -/
def loggerParameter : String := "logger"

/-- The parameter of the level. -/
def levelParameter : String := "level"

/-- The parameter of the exception. -/
def exceptionParameter : String := "exception"

/-- The names that no argument may have. -/
def specialNames : List String :=
  [loggerParameter, levelParameter, exceptionParameter]

/-- The `n`-th name to try for the argument at a position, from 1. -/
def positionalName (position n : Nat) : String :=
  let base := "arg" ++ toString position
  if n ≤ 1 then base else base ++ "_" ++ toString n

/-- The first positional name from the `n`-th on that is not taken, among `tries`
    names; the one after them if all are taken. -/
def freePositionalFrom (taken : List String) (position : Nat) : (tries n : Nat) → String
  | 0, n => positionalName position n
  | tries + 1, n =>
    if taken.contains (positionalName position n) then
      freePositionalFrom taken position tries (n + 1)
    else positionalName position n

/-- The first positional name that is not taken.  Distinct tries have distinct
    names, so one more try than there are taken names is enough. -/
def freePositional (taken : List String) (position : Nat) : String :=
  freePositionalFrom taken position taken.length 1

/-- Whether a placeholder's name can name its argument. -/
def isUsable (reservedInitial : Char) (taken : List String) (placeholder : String) : Bool :=
  isIdentifier placeholder && !startsReserved reservedInitial placeholder
    && !taken.contains placeholder

/-- The name of the argument at a position, given the placeholder there. -/
def parameterName (reservedInitial : Char) (taken : List String) (position : Nat)
    (placeholder? : Option String) : String :=
  match placeholder?.filter (isUsable reservedInitial taken) with
  | some placeholder => placeholder
  | none => freePositional taken position

/-- The names of `count` arguments from a position on, given the placeholders
    from there on. -/
def parameterNamesFrom (reservedInitial : Char) (taken : List String) (position : Nat) :
    (count : Nat) → (placeholders : List String) → List String
  | 0, _ => []
  | count + 1, placeholders =>
    let name := parameterName reservedInitial taken position placeholders.head?
    name :: parameterNamesFrom reservedInitial (name :: taken) (position + 1) count
      placeholders.tail

/-- The names of `count` arguments. -/
def parameterNames (reservedInitial : Char) (placeholders : List String) (count : Nat) :
    List String :=
  parameterNamesFrom reservedInitial specialNames 0 count placeholders

theorem length_parameterNamesFrom (reservedInitial : Char) (taken : List String)
    (position count : Nat) (placeholders : List String) :
    (parameterNamesFrom reservedInitial taken position count placeholders).length = count := by
  induction count generalizing taken position placeholders with
  | zero => rfl
  | succ count ih => simp [parameterNamesFrom, ih]

end StructuredLog.Identifier
