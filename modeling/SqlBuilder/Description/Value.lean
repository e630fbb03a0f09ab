import SqlBuilder.Description.Layout
import SqlBuilder.Json.Printer
import SqlBuilder.Value.Basic

/-!
# Descriptions of values

The description of a value names its kind, so that an integer of 32 bits can be told from one of 64.
-/
namespace SqlBuilder

mutual

/-- The description of a JSON value. -/
def Json.describe : Json → String
  | .null => "Null"
  | .bool b => Description.tagged "Bool" [if b then "true" else "false"]
  | .number n => Description.tagged "Number" [Json.renderNumber n]
  | .string text => Description.tagged "String" [quoted text]
  | .array items => "Array " ++ Description.list (Json.describeItems items)
  | .object members => "Object " ++ Description.map (Json.describeMembers members)

def Json.describeItems : List Json → List String
  | [] => []
  | item :: rest => item.describe :: Json.describeItems rest

def Json.describeMembers : List (String × Json) → List (String × String)
  | [] => []
  | (name, value) :: rest => (name, value.describe) :: Json.describeMembers rest

end

/-- The description of a value. -/
def Value.describe : Value → String
  | .null => "Null"
  | .bool b => Description.tagged "Bool" [if b then "true" else "false"]
  | .int32 n => Description.tagged "I32" [toString n]
  | .int64 n => Description.tagged "I64" [toString n]
  | .single x => Description.tagged "F32" [NumberStyle.description.write x]
  | .double x => Description.tagged "F64" [NumberStyle.description.write x]
  | .text s => Description.tagged "String" [quoted s]
  | .bytes octets => Description.tagged "Bytes" [Description.list (octets.map toString)]
  | .json held => Description.tagged "Json" [held.describe]

def Bindings.describe (bindings : Bindings) : String :=
  Description.map (bindings.entries.map fun entry => (entry.1, entry.2.describe))

end SqlBuilder
