import SqlBuilder.Config.Location
import SqlBuilder.Connection.Rows

/-!
# Drivers

A driver opens a connection to a location and runs statements on it.  Its parameters are positional
and its values are its own.  Where no driver has been built in, `Driver.absent` stands for it: it
refuses every location, so it never has a connection to run anything on.
-/
namespace SqlBuilder

/-- A driver, by what it answers.  The type of its connections is its own. -/
structure Driver (κ : Type) where
  connect : Location → Except DriverError κ
  /-- Runs a statement and counts the affected rows. -/
  execute : (sql : String) → List Wire → κ → Except DriverError Nat × κ
  /-- Runs a statement and delivers its rows. -/
  fetchAll : (sql : String) → List Wire → κ → Except DriverError (List WireRow) × κ

namespace Driver

/-- Why a location is refused where there is no driver.  The name of a file is still read as part of
a URL, and behind two slashes that may fail. -/
def refusal : Location → DriverError
  | .file text => match Url.cleaned text.toList with
    | '/' :: '/' :: authority => match Url.ofAuthority Dialect.sqlite.name authority with
      | .ok _ => .noDriver Dialect.sqlite.name
      | .error reason => .badUrl reason
    | _ => .noDriver Dialect.sqlite.name
  | .server url => .noDriver url.scheme

/-- The driver that is not there. -/
def absent : Driver Empty where
  connect location := .error (refusal location)
  execute _ _ connection := nomatch connection
  fetchAll _ _ connection := nomatch connection

end Driver

end SqlBuilder
