import SqlBuilder.Connection.Connector
import SqlBuilder.Description.Session

/-!
# Descriptions of configurations and connectors

A password is never shown, only that there is one.
-/
namespace SqlBuilder

def Config.describe (c : Config) : String :=
  Description.record "ConnectionConfig" [
    ("driver", quoted c.driver),
    ("host", Description.optional (c.host.map quoted)),
    ("port", Description.optional (c.port.map toString)),
    ("dbname", quoted c.dbname),
    ("user", Description.optional (c.user.map quoted)),
    ("password", Description.optional (c.password.map fun _ => quoted "<redacted>")),
    ("options", Description.map (c.options.entries.map fun o => (o.1, quoted o.2)))]

def Connector.describe {κ : Type} (c : Connector κ) : String :=
  Description.record "Connector" [
    ("config", c.config.describe),
    ("dialect", c.dialect.describe),
    ("connected", if c.isConnected then "true" else "false")]

end SqlBuilder
