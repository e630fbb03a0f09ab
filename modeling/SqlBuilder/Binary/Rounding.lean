import SqlBuilder.Binary.Format

/-!
# Rounding into a binary format

Conversions between formats, from whole numbers and through a product or a quotient all have one
rule: the result is the number of the format that is nearest to the exact value, and of two equally
near ones the one whose last bit is zero.  `Floating.ofRatio` is that rule for the ratio of two
natural numbers; everything else is stated through it.
-/
namespace SqlBuilder

/-- The natural number nearest to `n / d`; a half goes to the even neighbour. -/
def roundHalfEven (n d : Nat) : Nat :=
  let whole := n / d
  let twice := 2 * (n % d)
  if twice < d then whole else if d < twice then whole + 1 else whole + whole % 2

/-- The largest `k` with `2 ^ k ≤ n / d`, for positive `n` and `d`. -/
def ratioLog2 (n d : Nat) : Int :=
  let k : Int := (n.log2 : Int) - (d.log2 : Int)
  if d * Nat.pow 2 k.toNat ≤ n * Nat.pow 2 (-k).toNat then k else k - 1

namespace Floating

variable {f g : BinaryFormat}

/-- The number of the format nearest to `± n / d`.  The exponent of the last place is the one that
gives the significand its full width, or the least one of the format; a significand that rounds up
to the next power of two carries into the exponent, and past the largest number lies infinity. -/
def ofRatio (f : BinaryFormat) (negative : Bool) (n d : Nat) : Floating f :=
  if n = 0 then zero f negative
  else
    let place := max f.minExponent (ratioLog2 n d - f.fractionBits)
    let significand := roundHalfEven (n * Nat.pow 2 (-place).toNat) (d * Nat.pow 2 place.toNat)
    let magnitude := (place - f.minExponent).toNat * Nat.pow 2 f.fractionBits + significand
    ofMagnitude f negative (min magnitude f.infiniteMagnitude)

/-- The number of the format nearest to `± significand · 2 ^ exponent`. -/
def ofScaled (f : BinaryFormat) (negative : Bool) (significand : Nat) (exponent : Int) :
    Floating f :=
  ofRatio f negative (significand * Nat.pow 2 exponent.toNat) (Nat.pow 2 (-exponent).toNat)

/-- The number of the format nearest to a whole number. -/
def ofInt (f : BinaryFormat) (n : Int) : Floating f :=
  ofRatio f (n < 0) n.natAbs 1

/-- The number of another format nearest to this one.  Into a wider format it is the same number. -/
def convert (x : Floating f) (g : BinaryFormat) : Floating g :=
  match x.view with
  | .nan => nan g
  | .infinite negative => infinity g negative
  | .finite negative significand exponent => ofScaled g negative significand exponent

/-- The double of the same value. -/
def widen (x : Single) : Double := x.convert .double

/-- The nearest single. -/
def narrow (x : Double) : Single := x.convert .single

end Floating

end SqlBuilder
