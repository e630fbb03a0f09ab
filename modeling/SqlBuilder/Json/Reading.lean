import SqlBuilder.Json.Outline

/-!
# Reading outlines

Three ways to go through an outline: to read a literal as text, to read a value whole, and to pass
over a value that nobody asked for.  Each goes in the order of the text and stops at the first
fault.
-/
namespace SqlBuilder

namespace Literal

def isHighSurrogate (n : Nat) : Bool := 0xd800 ≤ n && n ≤ 0xdbff

def isLowSurrogate (n : Nat) : Bool := 0xdc00 ≤ n && n ≤ 0xdfff

/-- The text of literal parts.  A high surrogate needs a low one right behind it. -/
def textOf (fault : Option TextFault) : List LiteralPart → Except TextFault (List Char)
  | [] => match fault with
    | none => .ok []
    | some fault => .error fault
  | .char c :: rest => do return c :: (← textOf fault rest)
  | .unit high :: .unit low :: rest =>
      if isHighSurrogate high then
        if isLowSurrogate low then do
          let code := 0x10000 + (high - 0xd800) * 0x400 + (low - 0xdc00)
          return Char.ofNat code :: (← textOf fault rest)
        else .error .malformed
      else if isLowSurrogate high then .error .malformed
      else do return Char.ofNat high :: (← textOf fault (.unit low :: rest))
  | .unit n :: rest =>
      if isHighSurrogate n then .error (if rest.isEmpty then fault.getD .malformed else .malformed)
      else if isLowSurrogate n then .error .malformed
      else do return Char.ofNat n :: (← textOf fault rest)

/-- The text of a literal. -/
def text (l : Literal) : Except TextFault String :=
  (textOf l.fault l.parts).map String.ofList

/-- Passes over a literal; its surrogates are not looked at. -/
def passOver (l : Literal) : Except TextFault Unit :=
  match l.fault with
  | none => .ok ()
  | some fault => .error fault

end Literal

namespace Outline

/-- The end of a container. -/
def close (fault : Option TextFault) : Except TextFault Unit :=
  match fault with
  | none => .ok ()
  | some fault => .error fault

mutual

/-- Passes over a value.  A number that breaks off is malformed here even where the text ends. -/
def passOver : Outline → Except TextFault Unit
  | .null => .ok ()
  | .bool _ => .ok ()
  | .number _ => .ok ()
  | .string text => text.passOver
  | .array items fault => do
      passOverItems items
      close fault
  | .object members fault => do
      passOverMembers members
      close fault
  | .brokenNumber _ => .error .malformed
  | .broken fault => .error fault

def passOverItems : List Outline → Except TextFault Unit
  | [] => .ok ()
  | item :: rest => do
      passOver item
      passOverItems rest

def passOverMembers : List (Literal × Outline) → Except TextFault Unit
  | [] => .ok ()
  | (name, value) :: rest => do
      name.passOver
      passOver value
      passOverMembers rest

end

mutual

/-- Reads a value whole.  Containers may be nested as deep as the first argument says. -/
def toJson (depth : Nat) : Outline → Except TextFault Json
  | .null => .ok .null
  | .bool b => .ok (.bool b)
  | .number n => match n.value? with
    | some n => .ok (.number n)
    | none => .error .malformed
  | .string text => do return .string (← text.text)
  | .array items fault =>
      match depth with
      | 0 => .error .malformed
      | depth + 1 => do
          let items ← itemsToJson depth items
          close fault
          return .array items
  | .object members fault =>
      match depth with
      | 0 => .error .malformed
      | depth + 1 => do
          let members ← membersToJson depth members
          close fault
          return Json.ofMembers members
  | .brokenNumber fault => .error fault
  | .broken fault => .error fault

def itemsToJson (depth : Nat) : List Outline → Except TextFault (List Json)
  | [] => .ok []
  | item :: rest => do
      let item ← toJson depth item
      return item :: (← itemsToJson depth rest)

def membersToJson (depth : Nat) : List (Literal × Outline) → Except TextFault (List (String × Json))
  | [] => .ok []
  | (name, value) :: rest => do
      let name ← name.text
      let value ← toJson depth value
      return (name, value) :: (← membersToJson depth rest)

end

end Outline

/-- How deep arrays and objects may be nested in a text that is read whole. -/
def nestingLimit : Nat := 127

/-- The value that a text holds. -/
def Json.ofString (text : String) : Except TextFault Json := do
  let text := JsonText.ofString text
  let json ← text.outline.toJson nestingLimit
  if text.trailing then .error .malformed else return json

end SqlBuilder
