/-!
# SQL dialects

A dialect decides how a positional parameter is marked, whether an insert can return the id that the
database generated, and where a server of its kind is usually found.
-/
namespace SqlBuilder

inductive Dialect where
  | postgres
  | mysql
  | sqlite
deriving DecidableEq

namespace Dialect

def all : List Dialect := [postgres, mysql, sqlite]

/-- The dialect's own name, which is also the scheme of its URLs. -/
def name : Dialect → String
  | postgres => "postgres"
  | mysql => "mysql"
  | sqlite => "sqlite"

/-- The driver names that select the dialect, in lower case. -/
def driverNames : Dialect → List String
  | postgres => ["pgsql", "postgres", "postgresql"]
  | mysql => ["mysql", "mariadb"]
  | sqlite => ["sqlite", "sqlite3"]

/-- A text with its ASCII letters in lower case. -/
def lowerCase (text : String) : String := String.ofList (text.toList.map Char.toLower)

/-- The dialect that a driver name selects; ASCII letters count the same in both cases. -/
def ofDriver? (driver : String) : Option Dialect :=
  all.find? fun dialect => lowerCase driver ∈ dialect.driverNames

/-- Whether `INSERT ... RETURNING` hands back generated ids. -/
def returnsIds : Dialect → Bool
  | postgres => true
  | mysql => false
  | sqlite => true

/-- The mark of the positional parameter with the given number, counted from one. -/
def marker (dialect : Dialect) (number : Nat) : String :=
  match dialect with
  | postgres => "$" ++ toString number
  | mysql => "?"
  | sqlite => "?"

/-- The port of a server that is configured without one. -/
def defaultPort : Dialect → Option UInt16
  | postgres => some 5432
  | mysql => some 3306
  | sqlite => none

end Dialect

end SqlBuilder
