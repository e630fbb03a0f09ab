import SqlBuilder.Proofs.ReachableSessions

/-!
# One call or none

Running a statement asks for one call at most, and what comes of it is seen in one place.  A plan
that **sends** a statement makes the call of that statement and nothing else, and hands a failure of
it on with the statement's text (`Plan.Sends`).  Every plan in which a prepared statement is run is
of this kind (`Prepared.execution_sends`), and the plan of a terminal operation is either of this
kind or settled with the reason for which the statement is refused (`Draft.plan_of_terminal`).
-/
namespace SqlBuilder

/-! ## Statements that are sent -/

/-- The call that sends a statement: rows are fetched for reads and for generated ids. -/
def Prepared.call (p : Prepared) : Call :=
  match p.verb with
  | .select | .insertReturningId => .fetchAll p.sql p.bindings
  | .insert | .update | .delete => .execute p.sql p.bindings

/-- A plan that makes the call of a statement, and fails with what the call fails with, tied to the
statement's text. -/
inductive Plan.Sends {α : Type} (p : Prepared) : Plan α → Prop
  | ask (conclude : Except Error p.call.Reply → Except Error α)
      (h : ∀ e, conclude (.error e) = .error (e.withSql p.sql)) : Sends p (.ask p.call conclude)

theorem Plan.Sends.andThen {α β : Type} {p : Prepared} {plan : Plan α} (h : plan.Sends p)
    (next : α → Except Error β) : (plan.andThen next).Sends p := by
  obtain ⟨conclude, hconclude⟩ := h
  refine .ask _ fun e => ?_
  rw [hconclude]
  rfl

namespace Prepared

theorem rows_sends (sql : String) (bindings : Bindings) :
    (rows ⟨.select, sql, bindings⟩).Sends ⟨.select, sql, bindings⟩ :=
  .ask _ fun _ => rfl

theorem newId_sends (sql : String) (bindings : Bindings) :
    (newId ⟨.insertReturningId, sql, bindings⟩).Sends ⟨.insertReturningId, sql, bindings⟩ :=
  .ask _ fun _ => rfl

theorem affected_sends {verb : Verb} (hverb : verb ∈ [Verb.insert, .update, .delete])
    (sql : String) (bindings : Bindings) :
    (affected ⟨verb, sql, bindings⟩).Sends ⟨verb, sql, bindings⟩ := by
  simp only [List.mem_cons, List.not_mem_nil, or_false] at hverb
  rcases hverb with rfl | rfl | rfl
  all_goals exact .ask _ fun _ => rfl

/-- A statement that was prepared before is sent, whatever it is. -/
theorem execution_sends (p : Prepared) : p.execution.Sends p := by
  obtain ⟨verb, sql, bindings⟩ := p
  cases verb with
  | select => exact (rows_sends sql bindings).andThen _
  | insertReturningId => exact (newId_sends sql bindings).andThen _
  | insert | update | delete => exact (affected_sends (by decide) sql bindings).andThen _

end Prepared

/-! ## The statement of a terminal operation -/

namespace Operation

/-- The kind of statement that a terminal operation runs. -/
def verb? : Operation → Option Verb
  | .get | .getAs _ => some .select
  | .insert _ => some .insert
  | .insertReturningId _ => some .insertReturningId
  | .update _ => some .update
  | .delete => some .delete
  | _ => none

/-- The fields that an operation hands over. -/
def fields : Operation → Fields
  | .insert fields | .insertReturningId fields | .update fields => fields
  | _ => []

end Operation

theorem Plan.ofExcept_andThen {α β γ : Type} (outcome : Except Error γ) (plan : γ → Plan α)
    (next : α → Except Error β) :
    (Plan.ofExcept outcome plan).andThen next =
      Plan.ofExcept outcome fun p => (plan p).andThen next := by
  cases outcome <;> rfl

/-- A terminal operation prepares its statement, fails where that fails, and otherwise sends it. -/
theorem Draft.plan_of_terminal (d : Draft) (dialect : Dialect) {operation : Operation} {verb : Verb}
    (hverb : operation.verb? = some verb) :
    ∃ send : Prepared → Plan Outcome,
      (∀ sql bindings, (send ⟨verb, sql, bindings⟩).Sends ⟨verb, sql, bindings⟩) ∧
      d.plan dialect operation =
        .ofExcept ((d.withFields operation.fields verb).prepare dialect verb) send := by
  cases operation with
  | get =>
    cases hverb
    exact ⟨_, fun sql bindings => (Prepared.rows_sends sql bindings).andThen _,
      Plan.ofExcept_andThen _ _ _⟩
  | getAs decode =>
    cases hverb
    exact ⟨_, fun sql bindings => (Prepared.rows_sends sql bindings).andThen _,
      Plan.ofExcept_andThen _ _ _⟩
  | insertReturningId fields =>
    cases hverb
    exact ⟨_, fun sql bindings => (Prepared.newId_sends sql bindings).andThen _,
      Plan.ofExcept_andThen _ _ _⟩
  | insert | update | delete =>
    cases hverb
    exact ⟨_, fun sql bindings =>
      ((Prepared.affected_sends (by decide) sql bindings).andThen _).andThen _,
      Plan.ofExcept_andThen _ _ _⟩
  | edit | preview | execute | begin | commit | rollback => cases hverb

/-! ## What comes of a call -/

/-- How a failed call shows in the outcome of the operation that made it: a failure of the driver
comes with the statement's text, and everything else as it is. -/
structure Reports {ρ α : Type} (sql : String) (reply : Except Error ρ) (outcome : Except Error α) :
    Prop where
  driver : ∀ cause, reply = .error (.database cause) →
    outcome = .error (.queryExecution sql cause)
  other : ∀ e, (∀ cause, e ≠ .database cause) → reply = .error e → outcome = .error e

namespace Session

variable {σ : Type}

/-- An operation that sends a statement makes its call and no other, and reports its failure. -/
theorem exchanges_of_sends (s : Session σ) {operation : Operation} {p : Prepared}
    (h : (s.draft.plan s.dialect operation).Sends p) :
    s.exchanges [operation] = [⟨p.call, (s.backend.answer p.call s.connection).1⟩] ∧
      Reports p.sql (s.backend.answer p.call s.connection).1 (s.perform operation).1 := by
  rw [exchanges_singleton, perform_eq]
  generalize s.draft.plan s.dialect operation = plan at h
  obtain ⟨conclude, hconclude⟩ := h
  have hfailed : ∀ e, (s.backend.answer p.call s.connection).1 = .error e →
      conclude (s.backend.answer p.call s.connection).1 = .error (e.withSql p.sql) := by
    intro e he
    rw [he, hconclude]
  refine ⟨rfl, ⟨fun cause hcause => hfailed _ hcause, fun e hother he => ?_⟩⟩
  have hkept : e.withSql p.sql = e := by
    cases e with
    | database cause => exact absurd rfl (hother cause)
    | _ => rfl
  exact (hfailed e he).trans (congrArg Except.error hkept)

/-- An operation that is refused makes no call and reports the reason. -/
theorem exchanges_of_settled (s : Session σ) {operation : Operation} {e : Error}
    (h : s.draft.plan s.dialect operation = .settled (.error e)) :
    s.exchanges [operation] = [] ∧ (s.perform operation).1 = .error e := by
  rw [exchanges_singleton, perform_eq, h]
  exact ⟨rfl, rfl⟩

end Session

namespace Session.Reachable

variable {σ : Type} {s : Session σ}

/-- A terminal operation is refused, or its statement is sent. -/
theorem refused_or_sent (hs : s.Reachable) {operation : Operation} {verb : Verb}
    (hverb : operation.verb? = some verb) :
    (∃ e, s.draft.refusal? s.dialect operation.fields verb = some e ∧
      s.exchanges [operation] = [] ∧ (s.perform operation).1 = .error e) ∨
    (s.draft.refusal? s.dialect operation.fields verb = none ∧ ∃ p : Prepared,
      (s.draft.withFields operation.fields verb).compile s.dialect verb = .ok p ∧
      s.exchanges [operation] = [⟨p.call, (s.backend.answer p.call s.connection).1⟩] ∧
      Reports p.sql (s.backend.answer p.call s.connection).1 (s.perform operation).1) := by
  have hprepare := hs.consistent.prepare_withFields s.dialect operation.fields verb
  obtain ⟨send, hsend, hplan⟩ := s.draft.plan_of_terminal s.dialect hverb
  cases hrefusal : s.draft.refusal? s.dialect operation.fields verb with
  | some e =>
    rw [hrefusal] at hprepare
    rw [hprepare] at hplan
    exact .inl ⟨e, rfl, s.exchanges_of_settled hplan⟩
  | none =>
    rw [hrefusal] at hprepare
    dsimp only at hprepare
    have hsends := hsend ((s.draft.withFields operation.fields verb).sql verb)
      (s.draft.withFields operation.fields verb).bindings
    rw [hprepare] at hplan
    change _ = send _ at hplan
    rw [← hplan] at hsends
    exact .inr ⟨rfl, _, Draft.compile_of_prepare hprepare, s.exchanges_of_sends hsends⟩

/-- **One call or none.**  A terminal operation makes no call exactly if there is no table, or no
fields for a statement that needs some, or the dialect hands back no ids where one is wanted; and of
these reasons it reports the first.  Otherwise it makes one call, that of the statement compiled from
its draft and its fields.  A failure of the driver is reported with the text of that statement, and
every other error as the connection gave it.  The same holds of a statement prepared elsewhere, which
is always sent. -/
theorem calls_of_terminal (hs : s.Reachable) {operation : Operation} {verb : Verb}
    (hverb : operation.verb? = some verb) :
    (s.exchanges [operation] = [] ↔
      s.draft.table = "" ∨ (verb.needsFields = true ∧ operation.fields = []) ∨
        (verb = .insertReturningId ∧ s.dialect.returnsIds = false)) ∧
      (∀ e, s.draft.refusal? s.dialect operation.fields verb = some e →
        s.exchanges [operation] = [] ∧ (s.perform operation).1 = .error e) ∧
      (s.draft.refusal? s.dialect operation.fields verb = none → ∃ p : Prepared,
        (s.draft.withFields operation.fields verb).compile s.dialect verb = .ok p ∧
        s.exchanges [operation] = [⟨p.call, (s.backend.answer p.call s.connection).1⟩] ∧
        Reports p.sql (s.backend.answer p.call s.connection).1 (s.perform operation).1) ∧
      ∀ p : Prepared,
        s.exchanges [.execute p] = [⟨p.call, (s.backend.answer p.call s.connection).1⟩] ∧
        Reports p.sql (s.backend.answer p.call s.connection).1 (s.perform (.execute p)).1 := by
  have hexecuted : ∀ p : Prepared, (s.draft.plan s.dialect (.execute p)).Sends p :=
    fun p => p.execution_sends.andThen _
  rw [← Draft.isSome_refusal?_iff]
  rcases hs.refused_or_sent hverb with ⟨e, hrefusal, hrefused⟩ | ⟨hrefusal, p, hcompile, hsent⟩
  · rw [hrefusal]
    refine ⟨⟨fun _ => rfl, fun _ => hrefused.1⟩, ?_, nofun,
      fun p => s.exchanges_of_sends (hexecuted p)⟩
    rintro e' ⟨⟩
    exact hrefused
  · rw [hrefusal]
    refine ⟨⟨fun hnone => ?_, nofun⟩, nofun, fun _ => ⟨p, hcompile, hsent⟩,
      fun p => s.exchanges_of_sends (hexecuted p)⟩
    rw [hsent.1] at hnone
    cases hnone

end Session.Reachable

/-- An insert whose call fails: the driver's failure comes back with the text as it was sent. -/
theorem Session.failed_insert_names_its_statement :
    let s := ((Session.new (Scripted.backend .sqlite)
      { Scripted.initial with failure := some (.database .poolClosed) }).performAll
        [.edit (.table "users"), .edit (.filter ⟨"users.id", .equal, .int32 1, .and⟩),
          .preview .insert]).2
    let sql := "INSERT INTO users (name) VALUES (:name) RETURNING id"
    s.Reachable ∧
      s.calls [.insertReturningId [("name", .text "Ada")]] =
        [.fetchAll sql (Ordered.ofList [(":id", .int32 1), (":name", .text "Ada")])] ∧
      (s.perform (.insertReturningId [("name", .text "Ada")])).1 =
        .error (.queryExecution sql .poolClosed) := by
  intro s sql
  have hs : s.Reachable := (Session.Reachable.new _ _).performAll _
  have hverb : (Operation.insertReturningId [("name", .text "Ada")]).verb? =
      some .insertReturningId := rfl
  obtain ⟨-, -, hsent, -⟩ := hs.calls_of_terminal hverb
  obtain ⟨p, hcompile, hexchanges, hreports⟩ := hsent rfl
  cases hcompile
  refine ⟨hs, ?_, hreports.driver .poolClosed rfl⟩
  rw [Session.calls, hexchanges]
  rfl

end SqlBuilder
