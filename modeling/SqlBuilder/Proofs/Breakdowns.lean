import SqlBuilder.Proofs.SharedTurns

/-!
# After a breakdown

A holder can break down in the middle of a statement, even inside an operation, and then nothing is
known of the draft that it leaves.  The shared session is poisoned by it and stays so
(`poisoned_holdAll`): later holders that end well do not make up for it.

Being poisoned is looked at each time that the session is handed out.  So from the first breakdown
on, every holder begins blank, whatever became of the holders before, and each statement is made of
what its own holder said since its last one.  Only the draft is given up; the connection goes on with
its record as it was, and transaction control reaches it as before.
-/
namespace SqlBuilder

namespace Shared

variable {σ τ : Type}

/-- A call passed on: the connection is asked once, as it is, and the session is left blank. -/
def forwarded (shared : Shared σ) (call : Call) : Except Error call.Reply × Shared σ :=
  let (reply, connection) := shared.session.backend.answer call shared.session.connection
  (reply, ⟨{ shared.session with connection, draft := .blank }, shared.poisoned⟩)

theorem query_of_poisoned {shared : Shared σ} (h : shared.poisoned = true) :
    shared.query = { shared.session with draft := .blank } := by
  rw [query, h]
  rfl

/-- A turn that begins blank makes its statements of its own edits. -/
theorem draft_takeTurn_of_blank {shared : Shared σ} (h : shared.query.draft = .blank)
    (turn : Turn) :
    (shared.takeTurn turn).session.draft =
      (Operation.pendingEdits turn.requests).foldl Draft.edit .blank := by
  rw [draft_takeTurn, h, Draft.foldl_after_blank]

/-- Transaction control on a poisoned session is passed on. -/
theorem control_of_poisoned {shared : Shared σ} (h : shared.poisoned = true) :
    shared.begin = shared.forwarded .begin ∧ shared.commit = shared.forwarded .commit ∧
      shared.rollback = shared.forwarded .rollback := by
  have hreleased : ∀ session : Session σ,
      shared.release session false = ⟨session, shared.poisoned⟩ := by
    intro session
    rw [release, Bool.or_false]
  unfold begin commit rollback withSession
  simp only [query_of_poisoned h, hreleased]
  exact ⟨rfl, rfl, rfl⟩

/-- **Nothing comes through from before a breakdown.**  Once a holder has broken down, in any history
of holders, the session is handed out with its draft blank, or with the table alone that it is asked
for, and is otherwise as it was left: the backend and the connection with its record are the same.
At any point of a turn, an operation makes the call that a new session of the dialect makes which was
told the turn's own edits since its last statement; where it makes none, it comes to the same.
Transaction control is passed on by one call. -/
theorem blank_after_breakdown (shared : Shared σ) (history : List (Holding σ))
    (hbroken : ∃ holding ∈ history, holding.breaksDown = true)
    (answer : (call : Call) → τ → Except Error call.Reply × τ) (other : τ) :
    let broken := shared.holdAll history
    broken.poisoned = true ∧
    broken.query = { broken.session with draft := .blank } ∧
    (∀ name, broken.table name =
      { broken.session with draft := { Draft.blank with table := name } }) ∧
    (∀ (turn : Turn) (operation : Operation),
      let guarded := ((broken.handOut turn.table?).performAll turn.operations).2
      let fresh := ((Session.new ⟨broken.session.dialect, answer⟩ other).performAll
        ((Operation.pendingEdits turn.requests).map Operation.edit)).2
      guarded.calls [operation] = fresh.calls [operation] ∧
        (guarded.calls [operation] = [] →
          (guarded.perform operation).1 = (fresh.perform operation).1)) ∧
    broken.begin = broken.forwarded .begin ∧ broken.commit = broken.forwarded .commit ∧
      broken.rollback = broken.forwarded .rollback := by
  intro broken
  have hpoisoned : broken.poisoned = true := by
    show (shared.holdAll history).poisoned = true
    rw [poisoned_holdAll, List.any_eq_true.mpr hbroken, Bool.or_true]
  have hquery := query_of_poisoned hpoisoned
  refine ⟨hpoisoned, hquery, fun name => ?_, fun turn operation => ?_, control_of_poisoned hpoisoned⟩
  · rw [table, hquery]
    rfl
  · intro guarded fresh
    have hdraft : guarded.draft = fresh.draft := by
      have hguarded := draft_takeTurn_of_blank (congrArg Session.draft hquery) turn
      have hfresh : fresh.draft =
          (Operation.pendingEdits turn.requests).foldl Draft.edit .blank :=
        Session.draft_performAll_edits _ _
      exact hguarded.trans hfresh.symm
    have hdialect : guarded.dialect = fresh.dialect := by
      have hguarded : guarded.dialect = broken.session.dialect :=
        congrArg Backend.dialect (backend_takeTurn broken turn)
      have hfresh : fresh.dialect = broken.session.dialect := Session.dialect_performAll _ _
      exact hguarded.trans hfresh.symm
    exact ⟨Session.calls_congr hdraft hdialect operation,
      Session.outcome_congr hdraft hdialect⟩

/-- A read that ended well, then a breakdown behind a join, then a condition that was left: the next
read is of its own table alone, and the record still has the first read. -/
theorem read_after_breakdown :
    let history : List (Holding Scripted) :=
      [Turn.holding ⟨some "users", [.get], false⟩,
        Turn.holding ⟨some "users",
          [.edit (.join ⟨.inner, "orders", "user_id", .equal, "id"⟩)], true⟩,
        Turn.holding ⟨none, [.edit (.filter ⟨"id", .equal, .int32 1, .and⟩)], false⟩]
    let shared := (Shared.new (Scripted.backend .postgres) Scripted.initial).holdAll history
    (∃ c, shared.session.draft.conditions = [c]) ∧ shared.query.draft = .blank ∧
      shared.query.connection.calls = [.fetchAll "SELECT * FROM users" .empty] ∧
      (shared.table "posts").calls [.get] = [.fetchAll "SELECT * FROM posts" .empty] ∧
      shared.begin.2.session.connection.calls =
        [.fetchAll "SELECT * FROM users" .empty, .begin] := by
  intro history shared
  obtain ⟨-, hquery, -, hstatement, hbegin, -, -⟩ :=
    blank_after_breakdown (Shared.new (Scripted.backend .postgres) Scripted.initial) history
      ⟨_, List.mem_cons_of_mem _ List.mem_cons_self, rfl⟩
      (Scripted.backend .postgres).answer Scripted.initial
  refine ⟨⟨_, rfl⟩, ?_, ?_, ?_, ?_⟩
  · exact congrArg Session.draft hquery
  · exact congrArg (fun s => s.connection.calls) hquery
  · exact (hstatement ⟨some "posts", [], false⟩ .get).1
  · exact congrArg (fun outcome => outcome.2.session.connection.calls) hbegin

end Shared

end SqlBuilder
