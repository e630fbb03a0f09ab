import SqlBuilder.Connection.Backend

/-!
# Scripted connections

A connection that answers as it is told and keeps a record of every call: it has rows for every
read, a count for every other statement, and possibly an error with which it answers everything.
-/
namespace SqlBuilder

structure Scripted where
  rows : List Row
  affected : Nat
  /-- The error that every call is answered with. -/
  failure : Option Error
  /-- All calls so far, in order. -/
  calls : List Call

namespace Scripted

/-- A connection that has no rows and reports one affected row. -/
def initial : Scripted := ⟨[], 1, none, []⟩

instance : Inhabited Scripted := ⟨initial⟩

/-- The reply to a call that does not fail. -/
def reply (s : Scripted) : (call : Call) → call.Reply
  | .execute _ _ => s.affected
  | .fetchAll _ _ => s.rows
  | .begin => ()
  | .commit => ()
  | .rollback => ()

/-- The connection as a backend for a dialect. -/
def backend (dialect : Dialect) : Backend Scripted where
  dialect := dialect
  answer call s :=
    let outcome := match s.failure with
      | some e => .error e
      | none => .ok (s.reply call)
    (outcome, { s with calls := s.calls ++ [call] })

end Scripted

end SqlBuilder
