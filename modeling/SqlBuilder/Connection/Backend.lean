import SqlBuilder.Connection.Error
import SqlBuilder.Statement.Draft

/-!
# Connections

A connection answers five kinds of calls.  A `Backend` gives the answers: what it replies to a call,
and in which state it is afterwards.  Nothing else is known of a connection, so whatever holds for
every backend holds whatever the database does.

What an operation wants from its connection is a `Plan`: either its outcome is known already, or it
makes one call and turns the reply into its outcome.  So no operation makes more than one call.
-/
namespace SqlBuilder

/-- A call to a connection.  Statements carry named parameters and their values. -/
inductive Call where
  /-- A statement that returns no rows. -/
  | execute (sql : String) (bindings : Bindings)
  /-- A statement whose rows are wanted. -/
  | fetchAll (sql : String) (bindings : Bindings)
  | begin
  | commit
  | rollback

/-- What a successful call gives: the number of rows affected, the rows, or nothing. -/
def Call.Reply : Call → Type
  | execute _ _ => Nat
  | fetchAll _ _ => List Row
  | begin => Unit
  | commit => Unit
  | rollback => Unit

/-- A connection, by its answers.  Its state may be of any type. -/
structure Backend (σ : Type) where
  dialect : Dialect
  answer : (call : Call) → σ → Except Error call.Reply × σ

/-- What an operation asks of its connection. -/
inductive Plan (α : Type) where
  /-- No call: the outcome is known. -/
  | settled (outcome : Except Error α)
  /-- One call, and what its reply amounts to. -/
  | ask (call : Call) (conclude : Except Error call.Reply → Except Error α)

namespace Plan

variable {α β σ : Type}

/-- Carries a plan out. -/
def run (plan : Plan α) (backend : Backend σ) (state : σ) : Except Error α × σ :=
  match plan with
  | settled outcome => (outcome, state)
  | ask call conclude =>
      let (reply, state) := backend.answer call state
      (conclude reply, state)

/-- The same plan with a further step on its outcome. -/
def andThen (plan : Plan α) (next : α → Except Error β) : Plan β :=
  match plan with
  | settled outcome => settled (outcome.bind next)
  | ask call conclude => ask call fun reply => (conclude reply).bind next

/-- A plan that depends on something that may have failed. -/
def ofExcept (outcome : Except Error β) (plan : β → Plan α) : Plan α :=
  match outcome with
  | .ok b => plan b
  | .error e => settled (.error e)

end Plan

end SqlBuilder
