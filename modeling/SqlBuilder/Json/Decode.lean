import SqlBuilder.Json.Reading
import SqlBuilder.Decimal.Notation
import SqlBuilder.Text.Quoted

/-!
# Decoding JSON against a type

A row is decoded from its JSON object, and a configuration from its JSON text.  Both report the
first thing that does not fit the expected type, in the same words.  A `Reader` checks a JSON value
against a type and gives it in that type's own form; readers for records, lists and dictionaries are
built from readers for their parts.
-/
namespace SqlBuilder

/-- What was found, as far as a message tells. -/
inductive Found where
  | null
  | bool (b : Bool)
  | whole (n : Int)
  | real (x : Double)
  | text (s : String)
  | sequence
  | map
deriving DecidableEq

/-- What was expected. -/
inductive Expectation where
  | signed64
  | unsigned8
  | unsigned16
  | double
  | boolean
  | string
  | sequence
  | map
  | record (name : String)
deriving DecidableEq

/-- Why a value does not fit a type. -/
inductive DecodeError where
  | wrongType (found : Found) (expected : Expectation)
  | outOfRange (n : Int) (expected : Expectation)
  | missingField (name : String)
  | duplicateField (name : String)
  /-- A record given as a sequence that ends before a required field. -/
  | tooShort (length : Nat) (record : String) (fields : Nat)
  /-- A complaint of a type's own. -/
  | other (detail : String)
deriving DecidableEq

def Found.message : Found → String
  | .null => "null"
  | .bool b => "boolean \x60" ++ (if b then "true" else "false") ++ "\x60"
  | .whole n => "integer \x60" ++ toString n ++ "\x60"
  | .real x => "floating point \x60" ++ NumberStyle.json.write x ++ "\x60"
  | .text s => "string " ++ quoted s
  | .sequence => "sequence"
  | .map => "map"

def Expectation.message : Expectation → String
  | .signed64 => "i64"
  | .unsigned8 => "u8"
  | .unsigned16 => "u16"
  | .double => "f64"
  | .boolean => "a boolean"
  | .string => "a string"
  | .sequence => "a sequence"
  | .map => "a map"
  | .record name => "struct " ++ name

def DecodeError.message : DecodeError → String
  | .wrongType found expected =>
      "invalid type: " ++ found.message ++ ", expected " ++ expected.message
  | .outOfRange n expected =>
      "invalid value: " ++ (Found.whole n).message ++ ", expected " ++ expected.message
  | .missingField name => "missing field \x60" ++ name ++ "\x60"
  | .duplicateField name => "duplicate field \x60" ++ name ++ "\x60"
  | .tooShort length record fields =>
      "invalid length " ++ toString length ++ ", expected " ++
        (Expectation.record record).message ++ " with " ++ toString fields ++ " elements"
  | .other detail => detail

def JsonNumber.found : JsonNumber → Found
  | .whole n => .whole n.val
  | .real x _ => .real x

namespace Json

def found : Json → Found
  | .null => .null
  | .bool b => .bool b
  | .number n => n.found
  | .string text => .text text
  | .array _ => .sequence
  | .object _ => .map

end Json

/-- A whole number of a narrower type, given by its limits. -/
def JsonNumber.within (low high : Int) (expected : Expectation) :
    JsonNumber → Except DecodeError Whole
  | .whole n => if low ≤ n.val ∧ n.val ≤ high then .ok n else .error (.outOfRange n.val expected)
  | .real x _ => .error (.wrongType (.real x) expected)

/-- Checks a JSON value against a type, and gives it in the form of that type. -/
abbrev Reader := Json → Except DecodeError Json

namespace Reader

/-- Any value. -/
def any : Reader := .ok

def wholeWithin (low high : Int) (expected : Expectation) : Reader
  | .number n => (n.within low high expected).map Json.whole
  | other => .error (.wrongType other.found expected)

def signed64 : Reader := wholeWithin (-0x8000000000000000) 0x7fffffffffffffff .signed64

def unsigned8 : Reader := wholeWithin 0 255 .unsigned8

/-- Any number, as a double. -/
def double : Reader
  | .number (.whole n) => .ok (Json.ofDouble (Floating.ofInt .double n.val))
  | .number (.real x h) => .ok (.number (.real x h))
  | other => .error (.wrongType other.found .double)

def boolean : Reader
  | .bool b => .ok (.bool b)
  | other => .error (.wrongType other.found .boolean)

def string : Reader
  | .string text => .ok (.string text)
  | other => .error (.wrongType other.found .string)

/-- What another reader accepts, or nothing. -/
def optional (read : Reader) : Reader
  | .null => .ok .null
  | other => read other

def list (read : Reader) : Reader
  | .array items => (items.mapM read).map Json.array
  | other => .error (.wrongType other.found .sequence)

/-- An object whose members all are of one type. -/
def dictionary (read : Reader) : Reader
  | .object members => do
      let members ← members.mapM fun member => (read member.2).map fun value => (member.1, value)
      return .object members
  | other => .error (.wrongType other.found .map)

/-- A field of a record. -/
structure Field where
  name : String
  read : Reader
  /-- What stands for the field where it is left out; without it the field is required. -/
  absent : Option Json

/-- Reads the members of an object that are fields of a record, in the order of the object. -/
def presentFields (fields : List Field) :
    List (String × Json) → Except DecodeError (List (String × Json))
  | [] => .ok []
  | (name, value) :: rest =>
      match fields.find? fun field => field.name = name with
      | none => presentFields fields rest
      | some field => do
          let value ← field.read value
          return (name, value) :: (← presentFields fields rest)

/-- A record given as an object.  Members that are no fields are ignored; a field that is left out
is looked for only after all members have been read. -/
def record (name : String) (fields : List Field) : Reader
  | .object members => do
      let present ← presentFields fields members
      let complete ← fields.mapM fun field =>
        match present.lookup field.name, field.absent with
        | some value, _ => .ok (field.name, value)
        | none, some value => .ok (field.name, value)
        | none, none => .error (.missingField field.name)
      return Json.ofMembers complete
  | other => .error (.wrongType other.found (.record name))

end Reader

end SqlBuilder
