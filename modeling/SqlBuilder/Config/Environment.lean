import SqlBuilder.Config.Basic
import SqlBuilder.Text.Integer

/-!
# Configurations from the environment

Six variables describe a connection.  The driver and the database have to be there and to say
something; the host, the user and the password are taken as they are; the port has to be a numeral.
-/
namespace SqlBuilder.Config

/-- A variable that has to be set, and not to an empty text. -/
def requiredVariable (environment : String → Option String) (name : String) : Except Error String :=
  match environment name with
  | some text => if text = "" then .error (connectionError (.missingKey name)) else .ok text
  | none => .error (connectionError (.missingKey name))

/-- The port, if its variable is set. -/
def portVariable (environment : String → Option String) : Except Error (Option UInt16) :=
  match environment "DB_PORT" with
  | none => .ok none
  | some text => match Integer.unsigned16? text with
    | some port => .ok (some port)
    | none => .error (connectionError (.invalidPortText text))

/-- The configuration that an environment describes.  The port is looked at first. -/
def ofEnvironment (environment : String → Option String) : Except Error Config := do
  let port ← portVariable environment
  let driver ← requiredVariable environment "DB_CONNECTION"
  let dbname ← requiredVariable environment "DB_DATABASE"
  return { of driver dbname with
    host := environment "DB_HOST"
    port
    user := environment "DB_USERNAME"
    password := environment "DB_PASSWORD" }

end SqlBuilder.Config
