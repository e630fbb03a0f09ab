import SqlBuilder.Config.Environment
import SqlBuilder.Connection.Backend
import SqlBuilder.Connection.Driver
import SqlBuilder.Connection.Positional

/-!
# Connectors

A connector holds one connection of a driver, opened when it is first needed and kept from then on.
It brings the parameters of a statement into positions before it looks at the connection, so a
statement with a parameter that has no value opens nothing.
-/
namespace SqlBuilder

structure Connector (κ : Type) where
  config : Config
  dialect : Dialect
  /-- The connection, once it is open. -/
  handle : Option κ

namespace Connector

variable {α κ : Type}

/-- A connector for a configuration that is complete.  Nothing is opened yet. -/
def new (config : Config) : Except Error (Connector κ) := do
  config.validate
  return ⟨config, ← config.dialect, none⟩

/-- A connector for the configuration that an environment describes. -/
def ofEnvironment (environment : String → Option String) : Except Error (Connector κ) := do
  new (← Config.ofEnvironment environment)

def isConnected (c : Connector κ) : Bool := c.handle.isSome

/-- Opens a new connection. -/
def openNew (driver : Driver κ) (c : Connector κ) : Except Error κ := do
  match driver.connect (← c.config.location) with
  | .ok handle => return handle
  | .error cause => throw (.connection (.unreachable c.config.dsn) (some cause))

/-- The connection, opened if it is not open yet. -/
def live (driver : Driver κ) (c : Connector κ) : Except Error κ :=
  match c.handle with
  | some handle => .ok handle
  | none => c.openNew driver

/-- Uses the connection. -/
def withHandle (driver : Driver κ) (c : Connector κ) (use : κ → Except Error α × κ) :
    Except Error α × Connector κ :=
  match c.live driver with
  | .error e => (.error e, c)
  | .ok handle =>
      let (outcome, handle) := use handle
      (outcome, { c with handle := some handle })

/-- Makes sure that the connection is open. -/
def connect (driver : Driver κ) (c : Connector κ) : Except Error Unit × Connector κ :=
  c.withHandle driver fun handle => (.ok (), handle)

/-- Runs a statement with named parameters. -/
def execute (driver : Driver κ) (c : Connector κ) (sql : String) (bindings : Bindings) :
    Except Error Nat × Connector κ :=
  match positional c.dialect bindings sql with
  | .error e => (.error e, c)
  | .ok statement => c.withHandle driver fun handle =>
      let arguments := statement.values.map Value.toWire
      let (outcome, handle) := driver.execute statement.sql arguments handle
      (outcome.mapError .database, handle)

/-- Runs a statement with named parameters and reads its rows. -/
def fetchAll (driver : Driver κ) (c : Connector κ) (sql : String) (bindings : Bindings) :
    Except Error (List Row) × Connector κ :=
  match positional c.dialect bindings sql with
  | .error e => (.error e, c)
  | .ok statement => c.withHandle driver fun handle =>
      let arguments := statement.values.map Value.toWire
      let (outcome, handle) := driver.fetchAll statement.sql arguments handle
      ((outcome.mapError .database).bind fun rows => rows.mapM WireRow.toRow, handle)

/-- Runs a fixed statement that controls a transaction. -/
def control (driver : Driver κ) (c : Connector κ) (sql : String) :
    Except Error Unit × Connector κ :=
  c.withHandle driver fun handle =>
    let (outcome, handle) := driver.execute sql [] handle
    ((outcome.mapError fun cause => (Error.database cause).withSql sql).map fun _ => (), handle)

/-- The connector as a backend. -/
def backend (driver : Driver κ) (dialect : Dialect) : Backend (Connector κ) where
  dialect := dialect
  answer call c := match call with
    | .execute sql bindings => c.execute driver sql bindings
    | .fetchAll sql bindings => c.fetchAll driver sql bindings
    | .begin => c.control driver "BEGIN"
    | .commit => c.control driver "COMMIT"
    | .rollback => c.control driver "ROLLBACK"

end Connector

end SqlBuilder
