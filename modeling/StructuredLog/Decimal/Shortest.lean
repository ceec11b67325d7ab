import StructuredLog.Decimal.Binary64

/-! # Shortest — the decimal text of a double

    A double is written with the fewest decimal digits that read back to it.
    The reals that round to the double form an interval, its ends included
    when the significand is even.  The coarsest decimal grid with a point in
    that interval gives the fewest digits; of its points inside, the one
    nearer to the double is taken, and of two equally near ones the larger.
    All comparisons are between natural numbers.

    The text is positional at every size: `1e21` has 22 digits, and whole
    numbers carry no decimal point. -/

namespace StructuredLog.Decimal

/-- The interval of reals that round to a double, with the double itself; all
    three in units of `2 ^ exponent`. -/
structure RoundingInterval where
  low : Nat
  value : Nat
  high : Nat
  exponent : Int
  /-- Whether the ends belong to the interval. -/
  closed : Bool
  deriving Repr

namespace RoundingInterval

/-- The interval of the double `significand * 2 ^ exponent`.  Just above a
    power of two the doubles below lie twice as dense, so there the lower half
    of the interval is half as wide. -/
def ofDouble (significand : Nat) (exponent : Int) : RoundingInterval where
  low :=
    if significand = Binary64.fractionBound ∧ exponent ≠ Binary64.minExponent then 4 * significand - 1
    else 4 * significand - 2
  value := 4 * significand
  high := 4 * significand + 2
  exponent := exponent - 2
  closed := significand % 2 = 0

/-- The factor that, with `decimalFactor`, turns `x * 2 ^ exponent` and
    `d * 10 ^ p` into the natural numbers `x * binaryFactor` and
    `d * decimalFactor`, which compare in the same way. -/
def binaryFactor (r : RoundingInterval) (p : Int) : Nat :=
  Nat.pow 2 r.exponent.toNat * Nat.pow 10 (-p).toNat

/-- The partner of `binaryFactor`. -/
def decimalFactor (r : RoundingInterval) (p : Int) : Nat :=
  Nat.pow 2 (-r.exponent).toNat * Nat.pow 10 p.toNat

/-- Whether `d * 10 ^ p` lies in the interval. -/
def contains (r : RoundingInterval) (p : Int) (d : Nat) : Bool :=
  let x := d * r.decimalFactor p
  let low := r.low * r.binaryFactor p
  let high := r.high * r.binaryFactor p
  if r.closed then low ≤ x && x ≤ high else low < x && x < high

/-- The multiple of `10 ^ p` in the interval that is nearest to the double, if
    the interval holds one next to the double. -/
def nearestMultiple? (r : RoundingInterval) (p : Int) : Option Nat :=
  let v := r.value * r.binaryFactor p
  let s := r.decimalFactor p
  let d := v / s
  match r.contains p d, r.contains p (d + 1) with
  | true, true => some (if 2 * v < (2 * d + 1) * s then d else d + 1)
  | true, false => some d
  | false, true => some (d + 1)
  | false, false => none

/-- The powers of ten that the digits of a double can start from, largest first. -/
def gridExponents : List Int :=
  (List.range 634).map fun (k : Nat) => 309 - (k : Int)

/-- The shortest decimal in the interval, as digits and a power of ten. -/
def shortest (r : RoundingInterval) : Nat × Int :=
  (gridExponents.findSome? fun p => (r.nearestMultiple? p).map (·, p)).getD (0, 0)

end RoundingInterval

/-- A nonnegative decimal `digits * 10 ^ p` written positionally: trailing
    zeros for a positive power, a decimal point for a negative one. -/
def positional (digits : Nat) (p : Int) : String :=
  if 0 ≤ p then toString (digits * Nat.pow 10 p.toNat)
  else if digits % 10 = 0 then fractional (digits / 10) ((-p).toNat - 1)
  else fractional digits (-p).toNat
where
  /-- The number `n / 10 ^ places` with that many digits after the point. -/
  fractional (n places : Nat) : String :=
    if places = 0 then toString n
    else
      let after := Nat.toDigits 10 (n % Nat.pow 10 places)
      String.ofList (Nat.toDigits 10 (n / Nat.pow 10 places) ++ '.' ::
        List.replicate (places - after.length) '0' ++ after)

namespace Binary64

/-- The text of a double. -/
def text (x : Binary64) : String :=
  match x.reading with
  | .nan => "NaN"
  | .infinite negative => if negative then "-inf" else "inf"
  | .finite negative significand exponent =>
    let magnitude :=
      if significand = 0 then "0"
      else
        let (digits, p) := (RoundingInterval.ofDouble significand exponent).shortest
        positional digits p
    if negative then "-" ++ magnitude else magnitude

end Binary64

end StructuredLog.Decimal
