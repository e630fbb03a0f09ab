import SqlBuilder.Binary.Format

/-!
# The shortest decimal of a binary number

A finite binary number is written with the fewest decimal digits that still read back as the same
number.  The reals that read back as it form an interval around it; for one digit, two digits and so
on, the two decimals next to the number are tried, and the first digit count at which one of them
lies in the interval wins.  Of two hits the nearer is taken; what happens when both are equally near
is left to the writer.
-/
namespace SqlBuilder

/-- The decimal `digits · 10 ^ exponent`. -/
structure Decimal where
  digits : Nat
  exponent : Int
deriving DecidableEq

/-- Which of two equally near decimals a writer takes. -/
inductive DecimalTie where
  | even
  | upward
deriving DecidableEq

/-- How many decimal digits a natural number has; zero has one. -/
def decimalLength (n : Nat) : Nat := (Nat.toDigits 10 n).length

/-- The largest `k` with `10 ^ k ≤ n / d`, for positive `n` and `d`: the ratio is scaled until it is
at least one, and its digits are counted. -/
def ratioLog10 (n d : Nat) : Int :=
  let scale := decimalLength d
  (decimalLength (n * Nat.pow 10 scale / d) : Int) - 1 - scale

/-- The reals that read back as one binary number, as ratios over a common denominator.  The ends
belong to it exactly when `closed` is set. -/
structure Neighbourhood where
  low : Nat
  value : Nat
  high : Nat
  denominator : Nat
  closed : Bool

namespace Neighbourhood

/-- The neighbourhood of `significand · 2 ^ exponent` in a format.  Its ends lie half way to the
next numbers; below a power of two the next number is only half as far away.  The ends themselves
read back as the number if its last bit is zero. -/
def of (f : BinaryFormat) (significand : Nat) (exponent : Int) : Neighbourhood :=
  let narrowBelow := significand = Nat.pow 2 f.fractionBits ∧ f.minExponent < exponent
  let up := Nat.pow 2 exponent.toNat
  { low := (4 * significand - if narrowBelow then 1 else 2) * up
    value := 4 * significand * up
    high := (4 * significand + 2) * up
    denominator := 4 * Nat.pow 2 (-exponent).toNat
    closed := significand % 2 = 0 }

/-- Whether the decimal `count · 10 ^ place` lies in the neighbourhood. -/
def holds (r : Neighbourhood) (count : Nat) (place : Int) : Bool :=
  let x := count * Nat.pow 10 place.toNat * r.denominator
  let low := r.low * Nat.pow 10 (-place).toNat
  let high := r.high * Nat.pow 10 (-place).toNat
  if r.closed then low ≤ x && x ≤ high else low < x && x < high

/-- The nearer of two neighbouring decimals that both lie in the neighbourhood. -/
def nearer (r : Neighbourhood) (tie : DecimalTie) (count : Nat) (place : Int) : Nat :=
  let unit := Nat.pow 10 place.toNat * r.denominator
  let above := 2 * (r.value * Nat.pow 10 (-place).toNat - count * unit)
  if above < unit then count
  else if unit < above then count + 1
  else match tie with
    | .even => count + count % 2
    | .upward => count + 1

/-- A decimal of the neighbourhood whose last digit has the given place, if there is one. -/
def at? (r : Neighbourhood) (tie : DecimalTie) (place : Int) : Option Nat :=
  let below := r.value * Nat.pow 10 (-place).toNat / (Nat.pow 10 place.toNat * r.denominator)
  match r.holds below place, r.holds (below + 1) place with
  | true, true => some (r.nearer tie below place)
  | true, false => some below
  | false, true => some (below + 1)
  | false, false => none

end Neighbourhood

/-- Drops the zeros at the end of the digits, at most as many as are asked for. -/
def Decimal.trim : Nat → Decimal → Decimal
  | 0, d => d
  | n + 1, d => if d.digits % 10 = 0 then Decimal.trim n ⟨d.digits / 10, d.exponent + 1⟩ else d

/-- As many digits as always suffice to read a double back. -/
def longestDigits : Nat := 17

/-- The shortest decimal that reads back as `significand · 2 ^ exponent`, for a positive
significand. -/
def shortestDecimal (f : BinaryFormat) (tie : DecimalTie) (significand : Nat) (exponent : Int) :
    Decimal :=
  let r := Neighbourhood.of f significand exponent
  let top := ratioLog10 r.value r.denominator
  let places := (List.range longestDigits).map fun n : Nat => top - (n : Int)
  let decimalAt? (place : Int) : Option Decimal :=
    (r.at? tie place).map fun digits => ⟨digits, place⟩
  match places.findSome? decimalAt? with
  | some d => d.trim longestDigits
  | none => ⟨0, 0⟩

end SqlBuilder
