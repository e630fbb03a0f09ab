import SqlBuilder.Config.Basic
import SqlBuilder.Json.Typed

/-!
# Configurations in JSON

A configuration is written as an object of all its fields.  It is read from an object with the
fields in any order, among which others may stand, or from an array of the fields in their own
order.  A field that is not required may be left out; in an array, only together with all that
follow it.
-/
namespace SqlBuilder

namespace Config

/-- The fields of a configuration. -/
inductive Key where
  | driver
  | host
  | port
  | dbname
  | user
  | password
  | options
deriving DecidableEq

namespace Key

/-- The fields in their own order. -/
def all : List Key := [driver, host, port, dbname, user, password, options]

def name : Key → String
  | driver => "driver"
  | host => "host"
  | port => "port"
  | dbname => "dbname"
  | user => "user"
  | password => "password"
  | options => "options"

def ofName? (name : String) : Option Key := all.find? fun key => key.name = name

def isRequired : Key → Bool
  | driver => true
  | dbname => true
  | _ => false

end Key

/-- The name of configurations in messages. -/
def recordName : String := "ConnectionConfig"

/-! ## Writing -/

def optionalText (text : Option String) : Json :=
  match text with
  | some text => .string text
  | none => .null

/-- The JSON form of a configuration, password included. -/
def toJson (c : Config) : Json :=
  Json.ofMembers [
    (Key.driver.name, .string c.driver),
    (Key.host.name, optionalText c.host),
    (Key.port.name, match c.port with
      | some port => .whole (.ofNat port.toNat (Nat.lt_trans port.toNat_lt (by decide)))
      | none => .null),
    (Key.dbname.name, .string c.dbname),
    (Key.user.name, optionalText c.user),
    (Key.password.name, optionalText c.password),
    (Key.options.name, Json.ofMembers (c.options.entries.map fun o => (o.1, .string o.2)))]

/-! ## Reading -/

/-- What has been read of a configuration so far. -/
structure Gathered where
  driver : Option String
  host : Option (Option String)
  port : Option (Option UInt16)
  dbname : Option String
  user : Option (Option String)
  password : Option (Option String)
  options : Option (Sorted String)

namespace Gathered

def empty : Gathered := ⟨none, none, none, none, none, none, none⟩

/-- Whether a field has been read. -/
def has (p : Gathered) : Key → Bool
  | .driver => p.driver.isSome
  | .host => p.host.isSome
  | .port => p.port.isSome
  | .dbname => p.dbname.isSome
  | .user => p.user.isSome
  | .password => p.password.isSome
  | .options => p.options.isSome

/-- Reads a field. -/
def read (p : Gathered) (key : Key) (value : Outline) : Except ReadFault Gathered :=
  match key with
  | .driver => return { p with driver := some (← value.readString) }
  | .host => return { p with host := some (← value.readOptional Outline.readString) }
  | .port => return { p with port := some (← value.readOptional Outline.readUnsigned16) }
  | .dbname => return { p with dbname := some (← value.readString) }
  | .user => return { p with user := some (← value.readOptional Outline.readString) }
  | .password => return { p with password := some (← value.readOptional Outline.readString) }
  | .options => return { p with options := some (← value.readStringMap) }

/-- The configuration, if nothing that is required is missing. -/
def complete (p : Gathered) : Except DecodeError Config := do
  let driver ← match p.driver with
    | some driver => pure driver
    | none => throw (.missingField Key.driver.name)
  let dbname ← match p.dbname with
    | some dbname => pure dbname
    | none => throw (.missingField Key.dbname.name)
  return {
    driver
    host := p.host.getD none
    port := p.port.getD none
    dbname
    user := p.user.getD none
    password := p.password.getD none
    options := p.options.getD .empty }

/-- Reads the members of an object.  A field that comes again is refused before its value is read.
-/
def readMembers (p : Gathered) : List (Literal × Outline) → Except ReadFault Gathered
  | [] => .ok p
  | (name, value) :: rest => do
      let name ← ReadFault.ofText name.text
      match Key.ofName? name with
      | none =>
          ReadFault.ofText value.passOver
          p.readMembers rest
      | some key =>
          if p.has key then throw (.data (.duplicateField name))
          else (← p.read key value).readMembers rest

/-- Reads the items of an array into the given fields, the first of which has the given position. -/
def readItems (p : Gathered) (position : Nat) (fault : Option TextFault) :
    List Key → List Outline → Except ReadFault Gathered
  | key :: keys, item :: items => do (← p.read key item).readItems (position + 1) fault keys items
  | key :: keys, [] => do
      ReadFault.ofText (Outline.close fault)
      if key.isRequired then throw (.data (.tooShort position recordName Key.all.length))
      p.readItems (position + 1) fault keys []
  | [], _ :: _ => .error (.text .malformed)
  | [], [] => do
      ReadFault.ofText (Outline.close fault)
      return p

end Gathered

/-- The configuration that an outline describes. -/
def ofOutline : Outline → Except ReadFault Config
  | .object members fault => do
      let read ← Gathered.empty.readMembers members
      ReadFault.ofText (Outline.close fault)
      read.complete.mapError .data
  | .array items fault => do
      let read ← Gathered.empty.readItems 0 fault Key.all items
      read.complete.mapError .data
  | other => .error (other.mismatch (.record recordName))

/-- The configuration that a JSON text describes. -/
def ofString (text : String) : Except ReadFault Config := do
  let text := JsonText.ofString text
  let config ← ofOutline text.outline
  if text.trailing then throw (.text .malformed)
  return config

end Config

end SqlBuilder
