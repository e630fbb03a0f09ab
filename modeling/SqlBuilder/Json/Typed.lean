import SqlBuilder.Json.Decode

/-!
# Typed reading of outlines

A value of a known type is read from an outline directly.  Reading goes in the order of the text,
and what is wrong first counts: a place where the text is no JSON, or a value that does not fit its
type.  So a value of the wrong type may hide a fault behind it, and a fault may hide a wrong type.
-/
namespace SqlBuilder

/-- Why nothing can be read from a text. -/
inductive ReadFault where
  /-- It is no JSON. -/
  | text (fault : TextFault)
  /-- It does not fit the type. -/
  | data (error : DecodeError)
deriving DecidableEq

namespace ReadFault

/-- A step that can only fail for the text. -/
def ofText {α : Type} (result : Except TextFault α) : Except ReadFault α := result.mapError text

end ReadFault

namespace Outline

/-- A value where one of another type is expected.  A text or a number is still read, for it is part
of the complaint; what a container holds is not looked at. -/
def mismatch (expected : Expectation) : Outline → ReadFault
  | .null => .data (.wrongType .null expected)
  | .bool b => .data (.wrongType (.bool b) expected)
  | .number n => match n.value? with
    | some n => .data (.wrongType n.found expected)
    | none => .text .malformed
  | .string text => match text.text with
    | .ok s => .data (.wrongType (.text s) expected)
    | .error fault => .text fault
  | .array _ _ => .data (.wrongType .sequence expected)
  | .object _ _ => .data (.wrongType .map expected)
  | .brokenNumber fault => .text fault
  | .broken fault => .text fault

def readString : Outline → Except ReadFault String
  | .string text => ReadFault.ofText text.text
  | other => .error (other.mismatch .string)

/-- A number of 16 bits without a sign. -/
def readUnsigned16 : Outline → Except ReadFault UInt16
  | .number n => match n.value? with
    | some n => match n.within 0 65535 .unsigned16 with
      | .ok n => .ok (UInt16.ofNat n.val.toNat)
      | .error e => .error (.data e)
    | none => .error (.text .malformed)
  | other => .error (other.mismatch .unsigned16)

/-- What another reader gives, or nothing. -/
def readOptional {α : Type} (read : Outline → Except ReadFault α) :
    Outline → Except ReadFault (Option α)
  | .null => .ok none
  | other => (read other).map some

/-- Writes the members of an object of strings into a map. -/
def readStringMembers (read : Sorted String) :
    List (Literal × Outline) → Except ReadFault (Sorted String)
  | [] => .ok read
  | (name, value) :: rest => do
      let name ← ReadFault.ofText name.text
      let value ← value.readString
      readStringMembers (read.insert name value) rest

/-- An object whose members all are strings. -/
def readStringMap : Outline → Except ReadFault (Sorted String)
  | .object members fault => do
      let map ← readStringMembers .empty members
      ReadFault.ofText (close fault)
      return map
  | other => .error (other.mismatch .map)

end Outline

end SqlBuilder
