import SqlBuilder.Connection.Error
import SqlBuilder.Value.Wire

/-!
# Rows of the driver

A row of the driver names its columns and says for each of them at which index its value is.
Turning it into a `Row` reads the columns in order and stops at the first that cannot be read.
-/
namespace SqlBuilder

/-- A row as the driver delivers it. -/
structure WireRow where
  /-- The name of each column and the index of its value. -/
  columns : List (String × Nat)
  values : List Wire

namespace WireRow

/-- The value at an index. -/
def read (row : WireRow) (index : Nat) : Except Error Value :=
  match row.values[index]? with
  | none => .error (.database (.columnOutOfBounds index row.values.length))
  | some wire => match wire.toValue? with
    | some value => .ok value
    | none => .error (.database (.unreadable index wire.typeName))

/-- Reads columns into a row.  Of columns with one name the last stays, in the place of the first.
-/
def readColumns (row : WireRow) (read : Row) : List (String × Nat) → Except Error Row
  | [] => .ok read
  | (name, index) :: rest => do
      let value ← row.read index
      row.readColumns (read.insert name value) rest

/-- The row with all columns read. -/
def toRow (row : WireRow) : Except Error Row := row.readColumns .empty row.columns

end WireRow

end SqlBuilder
