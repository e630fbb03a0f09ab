/-!
# Binary floating-point formats

Values of a database and of JSON hold numbers in two interchange formats, of 32 and of 64 bits.
Both are described by the same two widths, so one type, `Floating`, serves both: a bit pattern,
together with a view of what it stands for.  Every operation on such numbers is defined on that
view, in exact whole-number arithmetic.
-/
namespace SqlBuilder

/-- The widths that fix a binary interchange format.  The sign takes one more bit. -/
structure BinaryFormat where
  fractionBits : Nat
  exponentBits : Nat

namespace BinaryFormat

/-- The format of 32 bits. -/
def single : BinaryFormat := ⟨23, 8⟩

/-- The format of 64 bits. -/
def double : BinaryFormat := ⟨52, 11⟩

variable (f : BinaryFormat)

/-- The bits below the sign. -/
def magnitudeBits : Nat := f.exponentBits + f.fractionBits

def width : Nat := f.magnitudeBits + 1

/-- The least exponent that the last place of a number can have: the place of the smallest positive
number. -/
def minExponent : Int := 2 - Nat.pow 2 (f.exponentBits - 1) - f.fractionBits

/-- The magnitude of infinity: every exponent bit is set and no fraction bit. -/
def infiniteMagnitude : Nat := (Nat.pow 2 f.exponentBits - 1) * Nat.pow 2 f.fractionBits

end BinaryFormat

/-- A number of a binary format, given by its bits. -/
structure Floating (f : BinaryFormat) where
  bits : BitVec f.width
deriving DecidableEq

/-- A number of 32 bits. -/
abbrev Single := Floating .single

/-- A number of 64 bits. -/
abbrev Double := Floating .double

/-- What the bits of a floating-point number stand for.  A finite number is
`± significand · 2 ^ exponent`, with the least exponent that its format allows for it. -/
inductive FloatView where
  | nan
  | infinite (negative : Bool)
  | finite (negative : Bool) (significand : Nat) (exponent : Int)
deriving DecidableEq

namespace Floating

variable {f : BinaryFormat}

/-- The bits below the sign, as a number.  They grow with the size of the number they stand for. -/
def magnitude (x : Floating f) : Nat := x.bits.toNat % Nat.pow 2 f.magnitudeBits

def isNegative (x : Floating f) : Bool := Nat.pow 2 f.magnitudeBits ≤ x.bits.toNat

def view (x : Floating f) : FloatView :=
  let biased := x.magnitude / Nat.pow 2 f.fractionBits
  let fraction := x.magnitude % Nat.pow 2 f.fractionBits
  if f.infiniteMagnitude < x.magnitude then .nan
  else if f.infiniteMagnitude = x.magnitude then .infinite x.isNegative
  else if biased = 0 then .finite x.isNegative fraction f.minExponent
  else
    .finite x.isNegative (Nat.pow 2 f.fractionBits + fraction) (f.minExponent + (biased - 1 : Nat))

/-- Neither infinite nor a NaN. -/
def isFinite (x : Floating f) : Bool := x.magnitude < f.infiniteMagnitude

/-- The number of a given sign and magnitude. -/
def ofMagnitude (f : BinaryFormat) (negative : Bool) (magnitude : Nat) : Floating f :=
  ⟨BitVec.ofNat f.width (if negative then Nat.pow 2 f.magnitudeBits + magnitude else magnitude)⟩

/-- The NaN that stands for all of them. -/
def nan (f : BinaryFormat) : Floating f :=
  ofMagnitude f false (f.infiniteMagnitude + Nat.pow 2 (f.fractionBits - 1))

def infinity (f : BinaryFormat) (negative : Bool) : Floating f :=
  ofMagnitude f negative f.infiniteMagnitude

def zero (f : BinaryFormat) (negative : Bool) : Floating f :=
  ofMagnitude f negative 0

def isNaN (x : Floating f) : Bool := f.infiniteMagnitude < x.magnitude

end Floating

end SqlBuilder
