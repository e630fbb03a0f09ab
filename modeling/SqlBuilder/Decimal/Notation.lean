import SqlBuilder.Decimal.Shortest

/-!
# Written numbers

Two writers share the shortest decimal of a number and differ in its layout: JSON text, and the
descriptive text of values.  A `NumberStyle` holds everything in which they differ.
-/
namespace SqlBuilder

/-- The layout of a written floating-point number. -/
structure NumberStyle where
  /-- The least exponent of the first digit that is still written without an exponent part. -/
  lowestPlain : Int
  /-- The greatest such exponent. -/
  highestPlain : Int
  /-- What stands between the `e` and the digits of an exponent that is not negative. -/
  exponentSign : String
  tie : DecimalTie
  infinityText : String
  nanText : String

namespace NumberStyle

/-- JSON text: plain from `1e-5` up to below `1e16`, a plus sign before a positive exponent.
JSON has no infinite numbers and no NaN; both are written as `null`. -/
def json : NumberStyle := ⟨-5, 15, "+", .even, "null", "null"⟩

/-- Descriptive text: plain from `1e-4` up to below `1e16`, no sign before a positive exponent. -/
def description : NumberStyle := ⟨-4, 15, "", .upward, "inf", "NaN"⟩

/-- The digits with a point after the one whose place is zero; a whole number keeps `.0`. -/
def plain (d : Decimal) : String :=
  let digits := (toString d.digits).toList
  let places := (-d.exponent).toNat
  let padded := List.replicate (places + 1 - digits.length) '0' ++ digits
  if 0 ≤ d.exponent then
    String.ofList (digits ++ List.replicate d.exponent.toNat '0') ++ ".0"
  else
    String.ofList (padded.take (padded.length - places)) ++ "." ++
      String.ofList (padded.drop (padded.length - places))

/-- One digit, a point and the other digits if there are any, and the exponent of the first
digit. -/
def scientific (style : NumberStyle) (d : Decimal) : String :=
  let digits := (toString d.digits).toList
  let exponent := d.exponent + (digits.length - 1 : Nat)
  let sign := if exponent < 0 then "-" else style.exponentSign
  let fraction := if digits.length ≤ 1 then "" else "." ++ String.ofList (digits.drop 1)
  String.ofList (digits.take 1) ++ fraction ++ "e" ++ sign ++ toString exponent.natAbs

def decimal (style : NumberStyle) (d : Decimal) : String :=
  let exponent := d.exponent + (decimalLength d.digits - 1 : Nat)
  if style.lowestPlain ≤ exponent ∧ exponent ≤ style.highestPlain then plain d
  else style.scientific d

/-- The written form of a number.  A zero keeps its sign. -/
def write {f : BinaryFormat} (style : NumberStyle) (x : Floating f) : String :=
  let signed (negative : Bool) (text : String) := if negative then "-" ++ text else text
  match x.view with
  | .nan => style.nanText
  | .infinite negative => signed negative style.infinityText
  | .finite negative 0 _ => signed negative "0.0"
  | .finite negative significand exponent =>
      signed negative (style.decimal (shortestDecimal f style.tie significand exponent))

end NumberStyle

end SqlBuilder
