import SqlBuilder.Binary.Rounding
import SqlBuilder.Map.Sorted

/-!
# JSON values

A column may hold a JSON value, and rows are turned into JSON objects before they are decoded.  A
number is either whole, in the range that 64 bits give with or without a sign, or a finite double;
the two never mix, so `1` and `1.0` are different numbers.  The members of an object stand in
increasing order of their names.
-/
namespace SqlBuilder

/-- A whole number of JSON: from the least signed to the greatest unsigned number of 64 bits. -/
structure Whole where
  val : Int
  lower : -0x8000000000000000 ≤ val
  upper : val < 0x10000000000000000
deriving DecidableEq

namespace Whole

def ofNat (n : Nat) (h : n < 0x10000000000000000) : Whole := ⟨n, by omega, by omega⟩

def ofByte (n : UInt8) : Whole :=
  ofNat n.toNat (Nat.lt_trans n.toNat_lt (by decide))

def ofInt32 (n : Int32) : Whole :=
  ⟨n.toInt, by have := n.le_toInt; omega, by have := n.toInt_lt; omega⟩

def ofInt64 (n : Int64) : Whole :=
  ⟨n.toInt, by have := n.le_toInt; omega, by have := n.toInt_lt; omega⟩

end Whole

/-- A number of JSON. -/
inductive JsonNumber where
  | whole (n : Whole)
  | real (x : Double) (finite : x.isFinite = true)
deriving DecidableEq

inductive Json where
  | null
  | bool (b : Bool)
  | number (n : JsonNumber)
  | string (text : String)
  | array (items : List Json)
  | object (members : List (String × Json))
deriving Inhabited

namespace Json

def whole (n : Whole) : Json := .number (.whole n)

/-- A double as a number; JSON has no infinite numbers and no NaN, and `null` stands for them. -/
def ofDouble (x : Double) : Json :=
  if h : x.isFinite = true then .number (.real x h) else .null

/-- The object of members written one after the other: the last of a repeated name stays. -/
def ofMembers (members : List (String × Json)) : Json :=
  .object (members.foldl (fun sorted member => insertSorted member.1 member.2 sorted) [])

end Json

end SqlBuilder
