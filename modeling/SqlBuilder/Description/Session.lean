import SqlBuilder.Connection.Session
import SqlBuilder.Description.Value

/-!
# Descriptions of sessions

A session is described by its draft, its dialect and its connection.  How a connection is described
depends on what it is.
-/
namespace SqlBuilder

def Dialect.describe : Dialect → String
  | .postgres => "Postgres"
  | .mysql => "MySql"
  | .sqlite => "Sqlite"

def Comparison.describe (c : Comparison) : String := Description.tagged "Operator" [quoted c.symbol]

def Conjunction.describe : Conjunction → String
  | .and => "And"
  | .or => "Or"

def JoinKind.describe : JoinKind → String
  | .inner => "Inner"
  | .left => "Left"
  | .right => "Right"
  | .full => "Full"
  | .cross => "Cross"

def Condition.describe (c : Condition) : String :=
  Description.record "WhereClause" [
    ("column", quoted c.column),
    ("operator", c.comparison.describe),
    ("value", c.value.describe),
    ("connector", c.conjunction.describe)]

def Join.describe (j : Join) : String :=
  Description.record "JoinClause" [
    ("join_type", j.kind.describe),
    ("table", quoted j.table),
    ("first", quoted j.first),
    ("operator", j.comparison.describe),
    ("second", quoted j.second)]

def Draft.describe (d : Draft) : String :=
  Description.record "QueryState" [
    ("table", quoted d.table),
    ("select_columns", Description.list (d.selected.map quoted)),
    ("insert_columns", Description.list (d.inserted.map quoted)),
    ("update_columns", Description.list (d.updated.map quoted)),
    ("joins", Description.list (d.joins.map Join.describe)),
    ("wheres", Description.list (d.conditions.map Condition.describe)),
    ("bindings", d.bindings.describe)]

/-- The description of a session, given that of its connection. -/
def Session.describe {σ : Type} (describeConnection : σ → String) (s : Session σ) : String :=
  Description.record "QueryBuilder" [
    ("state", s.draft.describe),
    ("grammar", Description.record "Grammar" [("dialect", s.dialect.describe)]),
    ("connection", describeConnection s.connection)]

end SqlBuilder
