import SqlBuilder.Connection.Error
import SqlBuilder.Map.Sorted

/-!
# Configurations

A configuration says which database to connect to.  Its driver names the dialect in any of the usual
spellings.  Everything but the driver and the database may be left out as far as the configuration
itself goes; whether it is enough for a connection is what `Config.validate` checks.
-/
namespace SqlBuilder

structure Config where
  driver : String
  host : Option String
  port : Option UInt16
  dbname : String
  user : Option String
  password : Option String
  /-- Settings of the driver, by name. -/
  options : Sorted String
deriving Inhabited

namespace Config

/-- A configuration of which everything else is left out. -/
def of (driver dbname : String) : Config := ⟨driver, none, none, dbname, none, none, .empty⟩

/-- A database in memory, which needs no server. -/
def sqliteMemory : Config := of "sqlite" ":memory:"

def withOption (c : Config) (name value : String) : Config :=
  { c with options := c.options.insert name value }

def connectionError (problem : ConnectionProblem) : Error := .connection problem none

/-- The dialect that the driver names. -/
def dialect (c : Config) : Except Error Dialect :=
  match Dialect.ofDriver? c.driver with
  | some dialect => .ok dialect
  | none => .error (connectionError (.unknownDriver c.driver))

/-- The host as text; one that is left out is empty. -/
def hostText (c : Config) : String := c.host.getD ""

/-- Checks that everything the dialect needs is there: a database, and a host unless the dialect has
no servers. -/
def validate (c : Config) : Except Error Unit := do
  let dialect ← c.dialect
  if c.dbname = "" then throw (connectionError (.missingKey "dbname"))
  if dialect ≠ .sqlite ∧ c.hostText = "" then throw (connectionError (.missingKey "host"))

/-- The port to connect to: the configured one, or else the usual one of the dialect. -/
def effectivePort (c : Config) : Option UInt16 :=
  c.port <|> (Dialect.ofDriver? c.driver).bind Dialect.defaultPort

def portText (port : Option UInt16) : String :=
  match port with
  | some port => toString port
  | none => ""

/-- The name of the data source, which tells where the database is and holds no credentials. -/
def dsn (c : Config) : String :=
  c.driver ++ ":host=" ++ c.hostText ++ ";port=" ++ portText c.effectivePort ++
    ";dbname=" ++ c.dbname ++ ";"

end Config

end SqlBuilder
