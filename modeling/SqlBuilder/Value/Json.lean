import SqlBuilder.Value.Basic
import SqlBuilder.Json.Reading

/-!
# Values and JSON

A value has a JSON form, in which a row is decoded: integers of both widths are whole numbers, a
single is widened, and bytes are an array of whole numbers.  JSON does not keep the kind of a value.
Read back, it gives the first kind that fits, in the order in which `Value` lists them; a number
that is no integer of 32 or 64 bits is taken for a single.

Values can also be presented to any output format, described by a `Presenter`.
-/
namespace SqlBuilder

/-- What an output format does with each kind of thing that a value is made of. -/
structure Presenter (ρ : Type) where
  unit : ρ
  bool : Bool → ρ
  int32 : Int32 → ρ
  int64 : Int64 → ρ
  single : Single → ρ
  double : Double → ρ
  string : String → ρ
  byte : UInt8 → ρ
  sequence : List ρ → ρ
  map : List (String × ρ) → ρ
  json : Json → ρ

namespace Value

/-- The JSON form of a value. -/
def toJson : Value → Json
  | null => .null
  | bool b => .bool b
  | int32 n => .whole (.ofInt32 n)
  | int64 n => .whole (.ofInt64 n)
  | single x => .ofDouble x.widen
  | double x => .ofDouble x
  | text s => .string s
  | bytes octets => .array (octets.map fun b => .whole (.ofByte b))
  | json held => held

/-- Presents a value without naming its kind. -/
def present {ρ : Type} (p : Presenter ρ) : Value → ρ
  | null => p.unit
  | bool b => p.bool b
  | int32 n => p.int32 n
  | int64 n => p.int64 n
  | single x => p.single x
  | double x => p.double x
  | text s => p.string s
  | bytes octets => p.sequence (octets.map p.byte)
  | json held => p.json held

/-- A whole number as a byte. -/
def byte? : Json → Option UInt8
  | .number (.whole n) => if 0 ≤ n.val ∧ n.val < 256 then some (UInt8.ofNat n.val.toNat) else none
  | _ => none

/-- The value of the first kind that fits. -/
def ofJson (json : Json) : Value :=
  match json with
  | .null => .null
  | .bool b => .bool b
  | .number (.whole n) =>
      if -0x80000000 ≤ n.val ∧ n.val < 0x80000000 then .int32 (Int32.ofInt n.val)
      else if n.val < 0x8000000000000000 then .int64 (Int64.ofInt n.val)
      else .single (Floating.ofInt .single n.val)
  | .number (.real x _) => .single x.narrow
  | .string s => .text s
  | .array items => match items.mapM byte? with
    | some octets => .bytes octets
    | none => .json json
  | .object _ => .json json

end Value

/-- The JSON output format. -/
def Presenter.toJson : Presenter Json where
  unit := .null
  bool := .bool
  int32 n := .whole (.ofInt32 n)
  int64 n := .whole (.ofInt64 n)
  single x := .ofDouble x.widen
  double := .ofDouble
  string := .string
  byte b := .whole (.ofByte b)
  sequence := .array
  map := Json.ofMembers
  json := id

/-- The JSON object of a row, with the row's columns as names. -/
def Row.toJson (row : Row) : Json :=
  Json.ofMembers (row.entries.map fun entry => (entry.1, entry.2.toJson))

/-- Presents a row as a map. -/
def Row.present {ρ : Type} (p : Presenter ρ) (row : Row) : ρ :=
  p.map (row.entries.map fun entry => (entry.1, entry.2.present p))

end SqlBuilder
