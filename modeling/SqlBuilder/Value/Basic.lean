import SqlBuilder.Json.Basic
import SqlBuilder.Map.Ordered
import SqlBuilder.Text.Integer

/-!
# Values

What a statement binds to a parameter and what a row holds in a column.  Bindings and rows are maps
in insertion order.
-/
namespace SqlBuilder

inductive Value where
  | null
  | bool (b : Bool)
  | int32 (n : Int32)
  | int64 (n : Int64)
  | single (x : Single)
  | double (x : Double)
  | text (s : String)
  | bytes (octets : List UInt8)
  | json (held : Json)
deriving Inhabited

/-- A row of a result: the value of each column, in the order of the result. -/
abbrev Row := Ordered Value

/-- The values of a statement's named parameters, in the order in which they were first bound. -/
abbrev Bindings := Ordered Value

namespace Value

def isNull : Value → Bool
  | null => true
  | _ => false

/-- A whole number of 64 bits, as generated ids are read: an integer of either width, or a text that
is a numeral. -/
def toInt64? : Value → Option Int64
  | int32 n => some n.toInt64
  | int64 n => some n
  | text s => Integer.signed64? s
  | _ => none

def toText? : Value → Option String
  | text s => some s
  | _ => none

end Value

/-- The types whose elements can be bound to a parameter as they are. -/
class ToValue (α : Type) where
  toValue : α → Value

namespace ToValue

instance : ToValue Value := ⟨id⟩
instance : ToValue Unit := ⟨fun _ => .null⟩
instance : ToValue Bool := ⟨.bool⟩
instance : ToValue Int32 := ⟨.int32⟩
instance : ToValue Int64 := ⟨.int64⟩
instance : ToValue Single := ⟨.single⟩
instance : ToValue Double := ⟨.double⟩
instance : ToValue String := ⟨.text⟩
instance : ToValue (List UInt8) := ⟨.bytes⟩
instance : ToValue Json := ⟨.json⟩

/-- What is missing is bound as null. -/
instance {α : Type} [ToValue α] : ToValue (Option α) where
  toValue
    | some x => toValue x
    | none => .null

end ToValue

end SqlBuilder
