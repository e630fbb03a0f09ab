import SqlBuilder.Json.Basic

/-!
# Numerals

A numeral of JSON text is an optional minus sign, digits, optional digits after a point and an
optional exponent.  Without a point and an exponent it is a whole number, as far as 64 bits hold it.
Every other numeral is a double, read by scaling: the leading digits that fit in 64 bits become a
double, which is multiplied or divided by the double of a power of ten.  Each of the two steps
rounds, so the result may differ in its last bit from the double nearest to the numeral.
-/
namespace SqlBuilder

namespace Floating

/-- The product of two finite numbers, rounded. -/
def product (x y : Double) : Double :=
  match x.view, y.view with
  | .finite s m e, .finite t n d => ofScaled .double (s != t) (m * n) (e + d)
  | _, _ => nan .double

/-- The quotient of two finite numbers, rounded; the divisor is not zero. -/
def quotient (x y : Double) : Double :=
  match x.view, y.view with
  | .finite s m e, .finite t n d =>
      ofRatio .double (s != t) (m * Nat.pow 2 (e - d).toNat) (n * Nat.pow 2 (d - e).toNat)
  | _, _ => nan .double

def isZero (x : Double) : Bool := x.magnitude = 0

def withSign (x : Double) (negative : Bool) : Double := ofMagnitude .double negative x.magnitude

end Floating

/-- A numeral as it is written. -/
structure Numeral where
  negative : Bool
  whole : List Nat
  /-- The digits after the point; empty if there is no point. -/
  fraction : List Nat
  exponent : Option Int

namespace Numeral

/-- The greatest number that the leading digits may reach. -/
def largestLead : Nat := 0xffffffffffffffff

/-- Appends digits to a number while the result fits in 64 bits; also gives the digits left over. -/
def absorb (lead : Nat) : List Nat → Nat × List Nat
  | [] => (lead, [])
  | digit :: rest =>
      if largestLead < lead * 10 + digit then (lead, digit :: rest)
      else absorb (lead * 10 + digit) rest

/-- The greatest power of ten that is a finite double. -/
def largestPower : Nat := 308

/-- The double of a power of ten. -/
def power (n : Nat) : Double := Floating.ofRatio .double false (Nat.pow 10 n) 1

/-- Scales a double by a power of ten.  A negative power that no double can divide by is taken in
steps; past the largest double there is no result, unless the number is zero. -/
def scale (x : Double) (exponent : Int) : Option Double :=
  if exponent.natAbs ≤ largestPower then
    if 0 ≤ exponent then some (Floating.product x (power exponent.natAbs))
    else some (Floating.quotient x (power exponent.natAbs))
  else if x.isZero then some x
  else if 0 ≤ exponent then none
  else scale (Floating.quotient x (power largestPower)) (exponent + largestPower)
termination_by exponent.natAbs
decreasing_by
  simp only [largestPower] at *
  omega

/-- The number that a numeral stands for, if it is in range.  A negative zero and a negative whole
number below the range of 64 bits are doubles. -/
def value? (n : Numeral) : Option JsonNumber :=
  let (lead, unread) := absorb 0 n.whole
  let (digits, ignored) := absorb lead n.fraction
  let real (x : Double) : Option JsonNumber :=
    if h : (x.withSign n.negative).isFinite = true then some (.real (x.withSign n.negative) h)
    else none
  if n.fraction = [] ∧ n.exponent = none ∧ unread = [] then
    if n.negative then
      if h : 0 < lead ∧ lead ≤ 0x8000000000000000 then some (.whole ⟨-lead, by omega, by omega⟩)
      else real (Floating.ofInt .double lead)
    else if h : lead < 0x10000000000000000 then some (.whole (.ofNat lead h))
    else none
  else
    let places := n.fraction.length - ignored.length
    let exponent : Int := unread.length - places + n.exponent.getD 0
    (scale (Floating.ofInt .double digits) exponent).bind real

end Numeral

end SqlBuilder
