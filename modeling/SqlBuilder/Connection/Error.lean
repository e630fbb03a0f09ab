import SqlBuilder.Json.Decode
import SqlBuilder.Statement.Clause
import SqlBuilder.Url.Basic
import SqlBuilder.Dialect

/-!
# Errors

Every failure is a cause, and `Error.message` gives its wording.  A failure of the driver is first
known without the statement that it belongs to; `Error.withSql` adds the statement and leaves every
other error alone.
-/
namespace SqlBuilder

/-- A failure of the database driver. -/
inductive DriverError where
  /-- The server sent something that cannot be understood. -/
  | protocol (detail : String)
  | rowNotFound
  | columnNotFound (name : String)
  | poolClosed
  /-- No driver is there for the scheme of a URL. -/
  | noDriver (scheme : String)
  /-- The URL handed to the driver is none. -/
  | badUrl (reason : UrlError)
  | columnOutOfBounds (index columns : Nat)
  /-- A column holds a kind of value that no read accepts. -/
  | unreadable (index : Nat) (typeName : String)
deriving DecidableEq

def DriverError.message : DriverError → String
  | .protocol detail => "encountered unexpected or invalid data: " ++ detail
  | .rowNotFound => "no rows returned by a query that expected to return at least one row"
  | .columnNotFound name => "no column found for name: " ++ name
  | .poolClosed => "attempted to acquire a connection on a closed pool"
  | .noDriver scheme => "error with configuration: no driver found for URL scheme " ++ quoted scheme
  | .badUrl reason => "error with configuration: " ++ reason.message
  | .columnOutOfBounds index columns =>
      "column index out of bounds: the len is " ++ toString columns ++ ", but the index is " ++
        toString index
  | .unreadable index typeName =>
      "error occurred while decoding column " ++ toString index ++
        ": mismatched types; Rust type \x60alloc::vec::Vec<u8>\x60 is not compatible with " ++
        "SQL type \x60" ++ typeName ++ "\x60"

/-- What is wrong with a configuration, or with the connection that it describes. -/
inductive ConnectionProblem where
  | missingKey (key : String)
  | invalidPortText (text : String)
  | unknownDriver (driver : String)
  /-- A part of the configuration that cannot stand in a URL. -/
  | invalidPart (part : String)
  | unreachable (dsn : String)
  | other (detail : String)
deriving DecidableEq

def ConnectionProblem.message : ConnectionProblem → String
  | .missingKey key => "missing configuration key '" ++ key ++ "'"
  | .invalidPortText text => "invalid DB_PORT '" ++ text ++ "'"
  | .unknownDriver driver => "unknown driver '" ++ driver ++ "'"
  | .invalidPart part => "invalid " ++ part ++ " in configuration"
  | .unreachable dsn => "could not connect to " ++ dsn
  | .other detail => detail

/-- Why a draft is no statement, or a statement cannot be sent. -/
inductive QueryProblem where
  | noTable
  | noFields (keyword : String)
  /-- A named parameter in the text for which no value is bound. -/
  | unbound (parameter : String)
  | other (detail : String)
deriving DecidableEq

def QueryProblem.message : QueryProblem → String
  | .noTable => "no table set, call table() first"
  | .noFields keyword => keyword ++ " requires at least one field"
  | .unbound parameter => "no value bound for placeholder '" ++ parameter ++ "'"
  | .other detail => detail

inductive Error where
  | connection (problem : ConnectionProblem) (cause : Option DriverError)
  | invalidQuery (problem : QueryProblem)
  /-- The dialect lacks what a statement of this kind needs. -/
  | unsupported (verb : Verb) (dialect : Dialect)
  /-- The driver failed at a known statement. -/
  | queryExecution (sql : String) (cause : DriverError)
  /-- The driver failed, and the statement is not known yet. -/
  | database (cause : DriverError)
  | serialization (cause : DecodeError)
deriving DecidableEq

namespace Error

def message : Error → String
  | connection problem _ => "Connection error: " ++ problem.message
  | invalidQuery problem => "Invalid query: " ++ problem.message
  | unsupported verb dialect =>
      "Unsupported operation: " ++ verb.label ++ " is not available for " ++ dialect.name
  | queryExecution sql cause =>
      "Query execution failed: " ++ cause.message ++ ". Sql Query: " ++ sql
  | database cause => "Database error: " ++ cause.message
  | serialization cause => "Serialization error: " ++ cause.message

/-- The wording of the failure behind an error. -/
def causeMessage? : Error → Option String
  | connection _ cause => cause.map DriverError.message
  | queryExecution _ cause => some cause.message
  | database cause => some cause.message
  | serialization cause => some cause.message
  | _ => none

/-- The statement that failed. -/
def sql? : Error → Option String
  | queryExecution sql _ => some sql
  | _ => none

/-- Ties a driver failure to the statement that was sent. -/
def withSql (sql : String) : Error → Error
  | database cause => queryExecution sql cause
  | other => other

end Error

end SqlBuilder
