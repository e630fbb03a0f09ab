/-!
# Whole numbers in text

Ids that a database hands back as text, and the port of a server, are read as decimal numerals: an
optional sign and at least one ASCII digit, with nothing before or behind.  Leading zeros do not
matter, and a number beyond the range of its type is refused.
-/
namespace SqlBuilder

namespace Integer

/-- The number that a run of digits stands for, if it is one. -/
def natural? (digits : List Char) : Option Nat :=
  if digits.isEmpty || !digits.all Char.isDigit then none
  else some (digits.foldl (fun n c => n * 10 + (c.toNat - 48)) 0)

/-- A numeral with a sign of either kind, or without one, of 64 bits. -/
def signed64? (text : String) : Option Int64 := do
  let n : Int ← match text.toList with
    | '+' :: digits => (natural? digits).map fun n => (n : Int)
    | '-' :: digits => (natural? digits).map fun n => -(n : Int)
    | digits => (natural? digits).map fun n => (n : Int)
  if -0x8000000000000000 ≤ n ∧ n < 0x8000000000000000 then some (Int64.ofInt n) else none

/-- A numeral with a plus sign, or without one, of 16 bits. -/
def unsigned16? (text : String) : Option UInt16 := do
  let n ← match text.toList with
    | '+' :: digits => natural? digits
    | digits => natural? digits
  if n < 0x10000 then some (UInt16.ofNat n) else none

end Integer

end SqlBuilder
