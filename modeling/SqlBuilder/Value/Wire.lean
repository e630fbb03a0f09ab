import SqlBuilder.Json.Printer
import SqlBuilder.Value.Basic

/-!
# Values on the wire

The database driver moves values in kinds of its own.  Binding picks one kind for each value.
Reading a column tries typed reads one after the other, and each of them accepts only certain kinds:
the driver never reports a column as empty, so an empty one, like a number of 32 bits, is refused by
every read.
-/
namespace SqlBuilder

/-- A value as the driver holds it. -/
inductive Wire where
  | null
  | bool (b : Bool)
  | smallInt (n : Int16)
  | integer (n : Int32)
  | bigInt (n : Int64)
  | real (x : Single)
  | double (x : Double)
  | text (s : String)
  | blob (octets : List UInt8)
deriving DecidableEq, Inhabited

/-- The argument that a value is bound as.  The driver has no JSON, which goes as text. -/
def Value.toWire : Value → Wire
  | .null => .null
  | .bool b => .bool b
  | .int32 n => .integer n
  | .int64 n => .bigInt n
  | .single x => .real x
  | .double x => .double x
  | .text s => .text s
  | .bytes octets => .blob octets
  | .json held => .text held.render

namespace Wire

/-- The name of a kind in SQL. -/
def typeName : Wire → String
  | null => "NULL"
  | bool _ => "BOOLEAN"
  | smallInt _ => "SMALLINT"
  | integer _ => "INTEGER"
  | bigInt _ => "BIGINT"
  | real _ => "REAL"
  | double _ => "DOUBLE"
  | text _ => "TEXT"
  | blob _ => "BLOB"

/-! ## Typed reads -/

def toInt64? : Wire → Option Int64
  | smallInt n => some n.toInt64
  | integer n => some n.toInt64
  | bigInt n => some n
  | _ => none

def toDouble? : Wire → Option Double
  | double x => some x
  | _ => none

def toText? : Wire → Option String
  | text s => some s
  | _ => none

def toBool? : Wire → Option Bool
  | bool b => some b
  | _ => none

def toBytes? : Wire → Option (List UInt8)
  | blob octets => some octets
  | _ => none

/-- The value of the first typed read that succeeds. -/
def toValue? (w : Wire) : Option Value :=
  (w.toInt64?.map .int64)
    <|> (w.toDouble?.map .double)
    <|> (w.toText?.map .text)
    <|> (w.toBool?.map .bool)
    <|> (w.toBytes?.map .bytes)

end Wire

end SqlBuilder
