/-! # Binary64 — double-precision numbers by their bits

    A double is its 64-bit word.  Sign, exponent and fraction are read off the
    word, and the value of a finite double is kept exactly, as a natural number
    times a power of two.  Equality follows the numbers, not the words: the two
    zeros are equal, and not-a-number differs from everything, itself
    included. -/

namespace StructuredLog.Decimal

/-- A double-precision number, as its 64-bit word. -/
structure Binary64 where
  bits : UInt64
  deriving DecidableEq, Repr

/-- What a word stands for. -/
inductive Binary64.Reading where
  /-- Not a number. -/
  | nan
  /-- An infinity and its sign. -/
  | infinite (negative : Bool)
  /-- The finite number `significand * 2 ^ exponent` and its sign. -/
  | finite (negative : Bool) (significand : Nat) (exponent : Int)
  deriving DecidableEq, Repr

namespace Binary64

/-- The number of values of the fraction field; the significand of a normal
    double is at least this. -/
def fractionBound : Nat := 0x10000000000000

/-- The number of values of the exponent field. -/
def exponentBound : Nat := 0x800

/-- Whether the sign bit is set. -/
def isNegative (x : Binary64) : Bool :=
  fractionBound * exponentBound ≤ x.bits.toNat

/-- The eleven bits below the sign. -/
def exponentField (x : Binary64) : Nat :=
  x.bits.toNat / fractionBound % exponentBound

/-- The lowest 52 bits. -/
def fractionField (x : Binary64) : Nat :=
  x.bits.toNat % fractionBound

/-- The least exponent of a finite double. -/
def minExponent : Int := -1074

/-- The number that the word stands for. -/
def reading (x : Binary64) : Reading :=
  if x.exponentField = exponentBound - 1 then
    if x.fractionField = 0 then .infinite x.isNegative else .nan
  else if x.exponentField = 0 then .finite x.isNegative x.fractionField minExponent
  else .finite x.isNegative (fractionBound + x.fractionField) (minExponent + (x.exponentField - 1 : Nat))

/-- Equality of the numbers: zeros are equal whatever their signs, and
    not-a-number equals nothing. -/
def sameNumber (x y : Binary64) : Bool :=
  match x.reading, y.reading with
  | .nan, _ => false
  | .finite _ 0 _, .finite _ 0 _ => true
  | _, _ => x.bits == y.bits

end Binary64

end StructuredLog.Decimal
