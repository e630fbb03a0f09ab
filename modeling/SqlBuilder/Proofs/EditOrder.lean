import SqlBuilder.Connection.Scripted
import SqlBuilder.Proofs.DraftBindings
import SqlBuilder.Proofs.EditedDrafts
import SqlBuilder.Proofs.StatementIsolation

/-!
# The order of edits

Edits may come in any order: a condition before the join that brings its table in, columns at the
end, the table in between.  Every edit touches the part of the draft that it belongs to and leaves
the others alone; the bindings belong to the conditions.  So a draft is known part by part from its
edits (`foldl_edit_eq`), and of two edits of different kinds it does not matter which comes first.

Within a kind the order is kept, as it decides the text and, for conditions on one parameter, the
value.  Columns are compared as they add up: whether a caller names them one by one, in pairs or as a
list, an edit with two of them is two edits with one each.
-/
namespace SqlBuilder

namespace Draft

/-- Runs of edits that name the same table last and agree in the columns, the joins and the
conditions.  How edits of different kinds come between each other is left open. -/
structure Edit.SameByKind (edits others : List Edit) : Prop where
  table : (edits.filterMap table?).getLast? = (others.filterMap table?).getLast?
  columns : edits.flatMap columns = others.flatMap columns
  joins : edits.filterMap join? = others.filterMap join?
  conditions : edits.filterMap condition? = others.filterMap condition?

/-- The bindings of an edited draft are decided by its conditions. -/
theorem bindings_foldl_edit (d : Draft) (edits : List Edit) :
    (edits.foldl edit d).bindings =
      d.bindings.insertAll ((edits.filterMap Edit.condition?).map Condition.write) := by
  induction edits generalizing d with
  | nil => rfl
  | cons e rest ih =>
    rw [List.foldl_cons, ih]
    cases e with
    | filter c => rfl
    | table | select | join => rfl

/-- **An edited draft, part by part.** -/
theorem foldl_edit_eq (d : Draft) (edits : List Edit) :
    edits.foldl edit d =
      { d with
        table := ((edits.filterMap Edit.table?).getLast?).getD d.table
        selected := d.selected ++ edits.flatMap Edit.columns
        joins := d.joins ++ edits.filterMap Edit.join?
        conditions := d.conditions ++ edits.filterMap Edit.condition?
        bindings := d.bindings.insertAll
          ((edits.filterMap Edit.condition?).map Condition.write) } := by
  rw [← table_foldl_edit, ← selected_foldl_edit, ← joins_foldl_edit, ← conditions_foldl_edit,
    ← bindings_foldl_edit, ← (fields_foldl_edit d edits).1, ← (fields_foldl_edit d edits).2]

/-- Edits that agree kind by kind make the same draft. -/
theorem Edit.SameByKind.foldl_edit {edits others : List Edit} (h : SameByKind edits others)
    (d : Draft) : edits.foldl edit d = others.foldl edit d := by
  rw [foldl_edit_eq, foldl_edit_eq, h.table, h.columns, h.joins, h.conditions]

/-- The read of an edited draft.  Joins stand before conditions, wherever they were said. -/
theorem selectSql_foldl_edit (d : Draft) (edits : List Edit) :
    (edits.foldl edit d).selectSql =
      "SELECT " ++ (if (d.selected ++ edits.flatMap Edit.columns).isEmpty then "*"
          else commaSeparated (d.selected ++ edits.flatMap Edit.columns)) ++
        " FROM " ++ ((edits.filterMap Edit.table?).getLast?).getD d.table ++
        joinsSql (d.joins ++ edits.filterMap Edit.join?) ++
        conditionsSql (d.conditions ++ edits.filterMap Edit.condition?) := by
  rw [selectSql, table_foldl_edit, selected_foldl_edit, joins_foldl_edit, conditions_foldl_edit]

end Draft

namespace Session

variable {σ τ : Type}

/-- **Edits of different kinds commute.**  Two sessions with one draft and one dialect are given
edits that agree kind by kind.  Then their drafts are the same again, bindings and their order
included; every preview is the same; and every operation makes the same call, or none and comes to
the same.  Whatever the order, a read has its joins before its conditions: as it is previewed, and as
it is sent. -/
theorem same_statement_in_any_order {s : Session σ} {t : Session τ} (hdraft : s.draft = t.draft)
    (hdialect : s.dialect = t.dialect) {edits others : List Draft.Edit}
    (h : Draft.Edit.SameByKind edits others) :
    let edited := (s.performAll (edits.map .edit)).2
    let reordered := (t.performAll (others.map .edit)).2
    let columns := s.draft.selected ++ edits.flatMap Draft.Edit.columns
    let table := ((edits.filterMap Draft.Edit.table?).getLast?).getD s.draft.table
    let conditions := edits.filterMap Draft.Edit.condition?
    let bindings := s.draft.bindings.insertAll (conditions.map Condition.write)
    let sql := "SELECT " ++ (if columns.isEmpty then "*" else Draft.commaSeparated columns) ++
      " FROM " ++ table ++ Draft.joinsSql (s.draft.joins ++ edits.filterMap Draft.Edit.join?) ++
      Draft.conditionsSql (s.draft.conditions ++ conditions)
    edited.draft = reordered.draft ∧
    (∀ verb, edited.preview verb = reordered.preview verb) ∧
    (∀ operation, edited.calls [operation] = reordered.calls [operation] ∧
      (edited.calls [operation] = [] →
        (edited.perform operation).1 = (reordered.perform operation).1)) ∧
    edited.draft.sql .select = sql ∧
    edited.preview .select = (if table = "" then .error (.invalidQuery .noTable)
      else .ok ⟨.select, sql, bindings⟩) ∧
    edited.calls [.get] = if table = "" then [] else [.fetchAll sql bindings] := by
  intro edited reordered columns table conditions bindings sql
  have hedited : edited.draft = edits.foldl Draft.edit s.draft := draft_performAll_edits s edits
  have hsame : edited.draft = reordered.draft := by
    rw [hedited, hdraft, h.foldl_edit]
    exact (draft_performAll_edits t others).symm
  have hdialects : edited.dialect = reordered.dialect :=
    (dialect_performAll s _).trans (hdialect.trans (dialect_performAll t _).symm)
  have htable : edited.draft.table = table := hedited ▸ Draft.table_foldl_edit s.draft edits
  have hbindings : edited.draft.bindings = bindings :=
    hedited ▸ Draft.bindings_foldl_edit s.draft edits
  have hsql : edited.draft.selectSql = sql := hedited ▸ Draft.selectSql_foldl_edit s.draft edits
  refine ⟨hsame, fun verb => ?_, fun operation => ⟨?_, fun hcalls => ?_⟩, hsql, ?_, ?_⟩
  · rw [preview, preview, hsame, hdialects]
  · exact calls_congr hsame hdialects operation
  · exact outcome_congr hsame hdialects hcalls
  · rw [preview, Draft.prepare_select, htable, hsql, hbindings]
  · rw [calls_get, htable, hsql, hbindings]

/-- A condition said first and a table named twice: the read is that of the usual order, on a
connection that works as on one that does not. -/
theorem read_of_conditions_said_first :
    let s := ((Session.new (Scripted.backend .mysql) Scripted.initial).performAll
      ([.filter ⟨"total", .greater, .int32 9, .and⟩, .select ["name", "total"],
        .join ⟨.left, "orders", "user_id", .equal, "id"⟩, .table "users"].map .edit)).2
    let t := ((Session.new (Scripted.backend .mysql)
      { Scripted.initial with failure := some (.database .poolClosed) }).performAll
      ([.table "orders", .table "users", .select ["name"], .select ["total"],
        .join ⟨.left, "orders", "user_id", .equal, "id"⟩,
        .filter ⟨"total", .greater, .int32 9, .and⟩].map .edit)).2
    let sql :=
      "SELECT name, total FROM users LEFT JOIN orders ON user_id = id WHERE total > :total"
    s.calls [.get] = t.calls [.get] ∧ t.draft.sql .select = sql ∧
      t.calls [.get] = [.fetchAll sql (Ordered.ofList [(":total", .int32 9)])] := by
  intro s t sql
  have hkinds : Draft.Edit.SameByKind
      [.filter ⟨"total", .greater, .int32 9, .and⟩, .select ["name", "total"],
        .join ⟨.left, "orders", "user_id", .equal, "id"⟩, .table "users"]
      [.table "orders", .table "users", .select ["name"], .select ["total"],
        .join ⟨.left, "orders", "user_id", .equal, "id"⟩,
        .filter ⟨"total", .greater, .int32 9, .and⟩] := ⟨rfl, rfl, rfl, rfl⟩
  obtain ⟨hdraft, -, hoperations, hsql, -, hcalls⟩ :=
    same_statement_in_any_order (s := Session.new (Scripted.backend .mysql) Scripted.initial)
      (t := Session.new (Scripted.backend .mysql)
        { Scripted.initial with failure := some (.database .poolClosed) }) rfl rfl hkinds
  have hsame : s.calls [.get] = t.calls [.get] := (hoperations .get).1
  refine ⟨hsame, ?_, hsame.symm.trans hcalls⟩
  rw [← hdraft]
  exact hsql

end Session

end SqlBuilder
