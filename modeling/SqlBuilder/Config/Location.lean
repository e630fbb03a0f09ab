import SqlBuilder.Config.Basic

/-!
# Where a configuration points

The driver is handed a URL, credentials included.  A database in a file is named by a text of its
own; a server is reached through the URL of its host, in which every other part of the configuration
is encoded.  A host that carries parts of a URL itself has them kept or replaced, one part after the
other.
-/
namespace SqlBuilder

/-- Where a database is. -/
inductive Location where
  /-- A file, as its name and possibly options behind a question mark. -/
  | file (text : String)
  | server (url : Url)

/-- The URL of a location. -/
def Location.render : Location → String
  | file text => Dialect.sqlite.name ++ ":" ++ text
  | server url => url.render

namespace Config

/-- The options behind a question mark, if there are any. -/
def optionsSuffix (c : Config) : String :=
  if c.options.isEmpty then ""
  else "?" ++ String.ofList (FormQuery.ofOptions c.options.entries)

def fileLocation (c : Config) : Location := .file (c.dbname ++ c.optionsSuffix)

/-- The location of a database on a server.  A URL without a host can have no port. -/
def serverLocation (c : Config) (dialect : Dialect) : Except Error Location := do
  let url ← match Url.ofAuthority dialect.name c.hostText.toList with
    | .ok url => pure url
    | .error _ => throw (connectionError (.invalidPart "host"))
  if url.host.isEmpty then throw (connectionError (.invalidPart "port"))
  let url := url.withPort ((c.port <|> dialect.defaultPort).map UInt16.toNat)
  let url := match c.user with
    | some user => url.withUser user
    | none => url
  let url := match c.password with
    | some password => url.withPassword password
    | none => url
  return .server ((url.withPath c.dbname).addOptions c.options.entries)

def location (c : Config) : Except Error Location := do
  match ← c.dialect with
  | .sqlite => return c.fileLocation
  | dialect => c.serverLocation dialect

/-- The URL for the driver.  It contains the credentials. -/
def url (c : Config) : Except Error String := return (← c.location).render

end Config

end SqlBuilder
