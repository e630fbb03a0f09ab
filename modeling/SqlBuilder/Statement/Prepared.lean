import SqlBuilder.Connection.Error
import SqlBuilder.Statement.Sql

/-!
# Prepared statements

A draft becomes a statement in two steps.  Compiling writes its SQL and fails only where the dialect
lacks what the statement needs.  Preparing first checks that the draft says enough: a table, and at
least one field for an insert or an update.
-/
namespace SqlBuilder

/-- A statement that is ready to be sent. -/
structure Prepared where
  verb : Verb
  sql : String
  bindings : Bindings

namespace Draft

/-- Writes the statement of a kind for a dialect. -/
def compile (d : Draft) (dialect : Dialect) (verb : Verb) : Except Error Prepared :=
  if verb = .insertReturningId ∧ dialect.returnsIds = false then .error (.unsupported verb dialect)
  else .ok ⟨verb, d.sql verb, d.bindings⟩

/-- Checks that a draft says enough for a statement of a kind. -/
def check (d : Draft) (verb : Verb) : Except Error Unit :=
  if d.table = "" then .error (.invalidQuery .noTable)
  else match verb with
    | .insert | .insertReturningId =>
        if d.inserted = [] then .error (.invalidQuery (.noFields "INSERT")) else .ok ()
    | .update => if d.updated = [] then .error (.invalidQuery (.noFields "UPDATE")) else .ok ()
    | .select | .delete => .ok ()

/-- Checks a draft and writes its statement. -/
def prepare (d : Draft) (dialect : Dialect) (verb : Verb) : Except Error Prepared := do
  d.check verb
  d.compile dialect verb

end Draft

end SqlBuilder
