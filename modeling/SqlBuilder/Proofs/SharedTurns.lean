import SqlBuilder.Connection.Scripted
import SqlBuilder.Connection.Shared
import SqlBuilder.Proofs.EditedDrafts
import SqlBuilder.Proofs.StatementIsolation

/-!
# Turns at a shared session

Holders of a shared session take turns, and no two of them hold it at the same time.  But a turn may
end before its statement does: the holder looked at a preview, or thought better of it.  What was
said by then stays with the session, and the next holder finds it there.  Naming a table replaces the
table and nothing else.

What a holder does with the session may be anything (`Holding`); a turn is a holding by operations,
of which more can be said.  The first statement of a turn is made of what earlier turns left pending
and of the turn's own edits (`draft_query_takeTurns`).  It is the statement of the turn alone exactly
where nothing pending adds to it, as after turns that ran their statements, or after a breakdown.
-/
namespace SqlBuilder

/-- One time that a shared session is held.  What the holder does with it is left open: it may run
its statement, leave it unfinished, or break down anywhere, inside an operation too. -/
structure Holding (σ : Type) where
  /-- The table that the session is handed out for, if it is for one. -/
  table? : Option String
  /-- The session as it is given back, of the session as it was handed out. -/
  use : Session σ → Session σ
  breaksDown : Bool

/-- One turn at a shared session. -/
structure Turn where
  /-- The table that the turn begins with, if it begins with one. -/
  table? : Option String
  operations : List Operation
  /-- The holder breaks down at the end. -/
  breaksDown : Bool

namespace Turn

/-- All that is asked of the session in a turn. -/
def requests (turn : Turn) : List Operation :=
  (turn.table?.map fun name => Operation.edit (.table name)).toList ++ turn.operations

/-- The edits that turns leave behind: those since the last terminal operation of any of them, or
none, since a session that a holder broke down with is handed out blank. -/
def pendingEdits (turns : List Turn) : List Draft.Edit :=
  if turns.any breaksDown then [] else Operation.pendingEdits (turns.flatMap requests)

/-- The holding that a turn is. -/
def holding {σ : Type} (turn : Turn) : Holding σ :=
  ⟨turn.table?, fun s => (s.performAll turn.operations).2, turn.breaksDown⟩

end Turn

namespace Shared

variable {σ τ : Type}

/-- The session as it is handed out for a turn. -/
def handOut (shared : Shared σ) : Option String → Session σ
  | some name => shared.table name
  | none => shared.query

/-- The session is handed out, used and given back. -/
def hold (shared : Shared σ) (holding : Holding σ) : Shared σ :=
  shared.release (holding.use (shared.handOut holding.table?)) holding.breaksDown

/-- A history of holders, one after the other. -/
def holdAll (shared : Shared σ) (history : List (Holding σ)) : Shared σ := history.foldl hold shared

/-- A turn: the session is handed out, used and given back. -/
def takeTurn (shared : Shared σ) (turn : Turn) : Shared σ :=
  shared.release ((shared.handOut turn.table?).performAll turn.operations).2 turn.breaksDown

/-- Turns, one after the other. -/
def takeTurns (shared : Shared σ) (turns : List Turn) : Shared σ := turns.foldl takeTurn shared

/-! ## What turns leave -/

theorem draft_takeTurn (shared : Shared σ) (turn : Turn) :
    (shared.takeTurn turn).session.draft = turn.requests.foldl Draft.after shared.query.draft := by
  obtain ⟨table, operations, breaksDown⟩ := turn
  cases table with
  | none => exact Session.draft_performAll shared.query operations
  | some name => exact Session.draft_performAll (shared.table name) operations

theorem backend_query (shared : Shared σ) : shared.query.backend = shared.session.backend := by
  unfold query
  split <;> rfl

theorem backend_takeTurn (shared : Shared σ) (turn : Turn) :
    (shared.takeTurn turn).session.backend = shared.session.backend := by
  obtain ⟨table, operations, breaksDown⟩ := turn
  cases table with
  | none =>
    exact (Session.backend_performAll shared.query operations).trans (backend_query shared)
  | some name =>
    exact (Session.backend_performAll (shared.table name) operations).trans (backend_query shared)

theorem backend_takeTurns (shared : Shared σ) (turns : List Turn) :
    (shared.takeTurns turns).session.backend = shared.session.backend := by
  induction turns generalizing shared with
  | nil => rfl
  | cons turn rest ih => exact (ih (shared.takeTurn turn)).trans (backend_takeTurn shared turn)

/-- A breakdown is never forgotten. -/
theorem poisoned_holdAll (shared : Shared σ) (history : List (Holding σ)) :
    (shared.holdAll history).poisoned = (shared.poisoned || history.any Holding.breaksDown) := by
  induction history generalizing shared with
  | nil => exact (Bool.or_false _).symm
  | cons holding rest ih =>
    have hrest := ih (shared.hold holding)
    rw [List.any_cons, ← Bool.or_assoc]
    exact hrest

theorem takeTurns_eq_holdAll (shared : Shared σ) (turns : List Turn) :
    shared.takeTurns turns = shared.holdAll (turns.map Turn.holding) := by
  rw [holdAll, List.foldl_map]
  rfl

theorem poisoned_takeTurns (shared : Shared σ) (turns : List Turn) :
    (shared.takeTurns turns).poisoned = (shared.poisoned || turns.any Turn.breaksDown) := by
  rw [takeTurns_eq_holdAll, poisoned_holdAll, List.any_map]
  rfl

/-- Without a breakdown, turns are one run of all that is asked in them. -/
theorem draft_takeTurns {shared : Shared σ} {turns : List Turn}
    (hshared : shared.poisoned = false) (hturns : turns.any Turn.breaksDown = false) :
    (shared.takeTurns turns).session.draft =
      (turns.flatMap Turn.requests).foldl Draft.after shared.session.draft := by
  induction turns generalizing shared with
  | nil => rfl
  | cons turn rest ih =>
    rw [List.any_cons, Bool.or_eq_false_iff] at hturns
    have hquery : shared.query = shared.session := by
      rw [query, hshared]
      rfl
    have hnext : (shared.takeTurn turn).poisoned = false := by
      show (shared.poisoned || turn.breaksDown) = false
      rw [hshared, hturns.1]
      rfl
    have hrest := ih hnext hturns.2
    rw [draft_takeTurn, hquery, ← List.foldl_append] at hrest
    exact hrest

/-- **The session is handed out with the pending edits of all turns.** -/
theorem draft_query_takeTurns (backend : Backend σ) (connection : σ) (turns : List Turn) :
    ((Shared.new backend connection).takeTurns turns).query.draft =
      (Turn.pendingEdits turns).foldl Draft.edit .blank := by
  have hpoisoned := poisoned_takeTurns (Shared.new backend connection) turns
  rw [show (Shared.new backend connection).poisoned = false from rfl, Bool.false_or] at hpoisoned
  cases hany : turns.any Turn.breaksDown with
  | true =>
    rw [hany] at hpoisoned
    rw [query, Turn.pendingEdits, hpoisoned, hany]
    rfl
  | false =>
    rw [hany] at hpoisoned
    rw [query, Turn.pendingEdits, hpoisoned, hany, if_neg Bool.false_ne_true,
      if_neg Bool.false_ne_true, draft_takeTurns rfl hany]
    exact Draft.foldl_after_blank _

end Shared

/-! ## The statement of the next turn -/

/-- Reads of an empty column from a table tell a draft with parts of its own from a blank one. -/
theorem Draft.parts_of_selectSql {d : Draft}
    (h : ((d.edit (.table "t")).edit (.select [""])).selectSql =
      ((blank.edit (.table "t")).edit (.select [""])).selectSql) :
    d.selected = [] ∧ d.joins = [] ∧ d.conditions = [] := by
  -- The texts differ by what the parts add, so where the lengths agree nothing is added.
  have hlength := congrArg String.length h
  unfold selectSql at hlength
  have hshown : (d.selected ++ [""]).isEmpty = false := by simp
  simp only [edit, blank, hshown, List.nil_append, List.isEmpty_cons, Bool.false_eq_true, if_false,
    String.length_append] at hlength
  have hcolumns : (commaSeparated [""]).length = 0 := rfl
  have hnojoins : (joinsSql []).length = 0 := rfl
  have hnoconditions : (conditionsSql []).length = 0 := rfl
  refine ⟨eq_nil_of_commaSeparated ?_, eq_nil_of_joinsSql ?_, eq_nil_of_conditionsSql ?_⟩
  · exact String.length_eq_zero_iff.mp (by omega)
  · exact String.length_eq_zero_iff.mp (by omega)
  · exact String.length_eq_zero_iff.mp (by omega)

namespace Shared

variable {σ τ : Type}

theorem dialect_table_takeTurns (backend : Backend σ) (connection : σ) (turns : List Turn)
    (name : String) :
    (((Shared.new backend connection).takeTurns turns).table name).dialect = backend.dialect :=
  congrArg Backend.dialect ((backend_query _).trans (backend_takeTurns _ turns))

/-- **The next statement is made of what is pending.**  After any turns, the first statement of a turn
that begins with a table is that of a new session which is told the pending edits first.  It is that
of a new session which is told the table and the turn's own operations, whatever these are, exactly
if the pending edits add nothing to a draft. -/
theorem next_statement_after_turns (backend : Backend σ) (connection : σ)
    (answer : (call : Call) → τ → Except Error call.Reply × τ) (other : τ) (turns : List Turn) :
    let shared := (Shared.new backend connection).takeTurns turns
    let fresh := Session.new ⟨backend.dialect, answer⟩ other
    let pending := (Turn.pendingEdits turns).map Operation.edit
    (∀ name before operation,
      ((shared.table name).performAll before).2.calls [operation] =
        (((fresh.performAll pending).2.table name).performAll before).2.calls [operation]) ∧
    ((∀ name before operation, (∀ o ∈ before, o.isTerminal = false) →
        operation.isTerminal = true →
        ((shared.table name).performAll before).2.calls [operation] =
          ((fresh.table name).performAll before).2.calls [operation]) ↔
      ∀ e ∈ Turn.pendingEdits turns, e.addsNothing = true) := by
  intro shared fresh pending
  have hdraft : ∀ name before, ((shared.table name).performAll before).2.draft =
      before.foldl Draft.after
        (((Turn.pendingEdits turns).foldl Draft.edit .blank).edit (.table name)) := by
    intro name before
    rw [Session.draft_performAll, ← draft_query_takeTurns backend connection turns]
    rfl
  have hdialect : ∀ name before,
      ((shared.table name).performAll before).2.dialect = backend.dialect := by
    intro name before
    rw [Session.dialect_performAll]
    exact dialect_table_takeTurns backend connection turns name
  refine ⟨fun name before operation => ?_, fun hsame => ?_, fun hpending => ?_⟩
  · refine Session.calls_congr ?_ ?_ operation
    · have hfresh : (fresh.performAll pending).2.draft =
          (Turn.pendingEdits turns).foldl Draft.edit .blank := by
        rw [Session.draft_performAll, Draft.foldl_after_edits]
        rfl
      rw [hdraft, Session.draft_performAll, ← hfresh]
      rfl
    · rw [hdialect, Session.dialect_performAll]
      exact (Session.dialect_performAll fresh pending).symm
  · -- One read from a table tells, since its text is longer for every part that is pending.
    have hread := hsame "t" [.edit (.select [""])] .get (by simp [Operation.isTerminal]) rfl
    have hname : "t" ≠ "" := by decide
    rw [Session.calls_get_of_table (by rw [hdraft]; exact hname),
      Session.calls_get_of_table hname] at hread
    have hsql := (Call.fetchAll.inj (List.singleton_inj.mp hread)).1
    rw [hdraft] at hsql
    obtain ⟨hselected, hjoins, hconditions⟩ := Draft.parts_of_selectSql hsql
    exact Draft.addsNothing_of_foldl_edit hselected hjoins hconditions
  · intro name before operation _ _
    refine Session.calls_congr ?_ ?_ operation
    · rw [hdraft, Draft.edit_table_foldl_edit _ hpending, Session.draft_performAll]
      rfl
    · rw [hdialect, Session.dialect_performAll]
      rfl

/-- Two turns of which the first ends with a preview: its condition comes back in the statement of the
second, which never asked for it. -/
theorem not_all_turns_begin_blank :
    ¬ ∀ (turns : List Turn) (name : String) (before : List Operation) (operation : Operation),
      (∀ turn ∈ turns, turn.table?.isSome = true ∧ turn.breaksDown = false) →
      (∀ o ∈ before, o.isTerminal = false) → operation.isTerminal = true →
      (((((Shared.new (Scripted.backend .postgres) Scripted.initial).takeTurns turns).table
          name).performAll before).2).calls [operation] =
        ((((Session.new (Scripted.backend .postgres) Scripted.initial).table
          name).performAll before).2).calls [operation] := by
  intro h
  have hmixed := h
    [⟨some "users", [.edit (.filter ⟨"id", .equal, .int32 1, .and⟩), .preview .select], false⟩]
    "posts" [] .get (by decide) (by decide) rfl
  have hleft : ((((Shared.new (Scripted.backend .postgres) Scripted.initial).takeTurns
      [⟨some "users", [.edit (.filter ⟨"id", .equal, .int32 1, .and⟩), .preview .select],
        false⟩]).table "posts").performAll []).2.calls [.get] =
      [.fetchAll "SELECT * FROM posts WHERE id = :id" (Ordered.ofList [(":id", .int32 1)])] := rfl
  have hright : ((((Session.new (Scripted.backend .postgres) Scripted.initial).table
      "posts").performAll []).2).calls [.get] =
      [.fetchAll "SELECT * FROM posts" Ordered.empty] := rfl
  rw [hleft, hright] at hmixed
  have hsql := (Call.fetchAll.inj (List.singleton_inj.mp hmixed)).1
  exact absurd hsql (by decide)

end Shared

end SqlBuilder
