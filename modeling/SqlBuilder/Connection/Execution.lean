import SqlBuilder.Connection.Backend
import SqlBuilder.Statement.Prepared
import SqlBuilder.Value.Json

/-!
# Running statements

How a prepared statement is sent and what its reply means.  A failure of the driver is tied to the
text that was sent; every other error comes back as it is.
-/
namespace SqlBuilder

/-- What a statement gave, by the kind of statement. -/
inductive Answer where
  | success (rowsAffected : Nat)
  | rows (rows : List Row)
  | insertedId (id : Int64)

/-- The generated id in the rows that an insert handed back. -/
def returnedId (rows : List Row) : Except Error Int64 :=
  match rows with
  | [] => .error (.database .rowNotFound)
  | row :: _ => match (row.get? Draft.idColumn).bind Value.toInt64? with
    | some id => .ok id
    | none => .error (.database (.columnNotFound Draft.idColumn))

namespace Prepared

/-- Sends a statement whose rows are wanted. -/
def rows (p : Prepared) : Plan (List Row) :=
  .ask (.fetchAll p.sql p.bindings) fun (reply : Except Error (List Row)) =>
    reply.mapError (Error.withSql p.sql)

/-- Sends an insert and reads the id that it hands back. -/
def newId (p : Prepared) : Plan Int64 :=
  .ask (.fetchAll p.sql p.bindings) fun (reply : Except Error (List Row)) =>
    (reply.bind returnedId).mapError (Error.withSql p.sql)

/-- Sends a statement that returns no rows. -/
def affected (p : Prepared) : Plan Nat :=
  .ask (.execute p.sql p.bindings) fun (reply : Except Error Nat) =>
    reply.mapError (Error.withSql p.sql)

/-- Sends a statement in the way of its kind, whatever its text says. -/
def execution (p : Prepared) : Plan Answer :=
  match p.verb with
  | .select => p.rows.andThen fun rows => .ok (.rows rows)
  | .insertReturningId => p.newId.andThen fun id => .ok (.insertedId id)
  | .insert | .update | .delete => p.affected.andThen fun count => .ok (.success count)

end Prepared

/-- Decodes rows one after the other; the first that does not fit is the error. -/
def decodeRows {α : Type} (decode : Json → Except DecodeError α) (rows : List Row) :
    Except Error (List α) :=
  (rows.mapM fun row => decode row.toJson).mapError .serialization

namespace Draft

/-- The read that a draft describes. -/
def fetch (d : Draft) (dialect : Dialect) : Plan (List Row) :=
  .ofExcept (d.prepare dialect .select) Prepared.rows

/-- The insert of further fields. -/
def store (d : Draft) (dialect : Dialect) (fields : Fields) : Plan Bool :=
  .ofExcept ((d.addInserted fields).prepare dialect .insert) fun p =>
    p.affected.andThen fun _ => .ok true

/-- The insert of further fields whose generated id is wanted. -/
def storeReturningId (d : Draft) (dialect : Dialect) (fields : Fields) : Plan Int64 :=
  .ofExcept ((d.addInserted fields).prepare dialect .insertReturningId) Prepared.newId

/-- The update of further fields. -/
def change (d : Draft) (dialect : Dialect) (fields : Fields) : Plan Bool :=
  .ofExcept ((d.addUpdated fields).prepare dialect .update) fun p =>
    p.affected.andThen fun _ => .ok true

/-- The deletion that a draft describes. -/
def remove (d : Draft) (dialect : Dialect) : Plan Bool :=
  .ofExcept (d.prepare dialect .delete) fun p => p.affected.andThen fun _ => .ok true

end Draft

end SqlBuilder
