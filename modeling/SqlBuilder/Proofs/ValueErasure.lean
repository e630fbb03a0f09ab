import SqlBuilder.Connection.Positional
import SqlBuilder.Proofs.OrderedMaps
import SqlBuilder.Proofs.PositionalMachine
import SqlBuilder.Statement.Prepared

/-!
# Erasing values

Everything that carries values has an erasure: the same with null in the place of every value.  Each
step from the edits of a draft to positional SQL commutes with erasure.  So two drafts with one
erasure are prepared to statements with one erasure (`prepare_withoutValues`), and statements with
one erasure are the same text in every dialect, bound to equally many values
(`positional_withoutValues`).
-/
namespace SqlBuilder

/-! ## Drafts -/

/-- The same names with nothing held under them. -/
def Bindings.withoutValues (bindings : Bindings) : Bindings := bindings.map fun _ => .null

def Fields.withoutValues (fields : Fields) : Fields := fields.map fun field => (field.1, .null)

def Condition.withoutValue (condition : Condition) : Condition := { condition with value := .null }

def Prepared.withoutValues (p : Prepared) : Prepared :=
  { p with bindings := p.bindings.withoutValues }

/-- The erasure of bindings is their names in order. -/
theorem Bindings.withoutValues_eq_iff {bindings bindings' : Bindings} :
    bindings.withoutValues = bindings'.withoutValues ↔ bindings.keys = bindings'.keys := by
  constructor
  · intro h
    have hkeys := congrArg Ordered.keys h
    rwa [withoutValues, withoutValues, Ordered.keys_map, Ordered.keys_map] at hkeys
  · intro h
    refine Ordered.ext ?_
    have hentries := congrArg (List.map fun name => (name, Value.null)) h
    rwa [Ordered.keys, Ordered.keys, List.map_map, List.map_map] at hentries

/-- The erasure of fields is their columns in order. -/
theorem Fields.withoutValues_eq_of_columns {fields fields' : Fields}
    (h : fields.map Prod.fst = fields'.map Prod.fst) :
    fields.withoutValues = fields'.withoutValues := by
  have hfields := congrArg (List.map fun column => (column, Value.null)) h
  rwa [List.map_map, List.map_map] at hfields

theorem Fields.columns_withoutValues (fields : Fields) :
    fields.withoutValues.map Prod.fst = fields.map Prod.fst :=
  List.map_map

theorem Bindings.ofFields_withoutValues (fields : Fields) :
    Bindings.ofFields fields.withoutValues = (Bindings.ofFields fields).withoutValues := by
  rw [ofFields, ofFields, withoutValues, Ordered.map_ofList, Fields.withoutValues, List.map_map,
    List.map_map]
  rfl

/-- Binding fields commutes with erasure: which values come later changes no name and no place. -/
theorem Bindings.extend_withoutValues (bindings : Bindings) (fields : Fields) :
    bindings.withoutValues.extend (Bindings.ofFields fields.withoutValues) =
      Bindings.withoutValues (bindings.extend (Bindings.ofFields fields)) := by
  rw [ofFields_withoutValues]
  exact (Ordered.map_extend _ bindings _).symm

namespace Draft

def Edit.withoutValues : Edit → Edit
  | .filter condition => .filter condition.withoutValue
  | edit => edit

def withoutValues (d : Draft) : Draft :=
  { d with
    conditions := d.conditions.map Condition.withoutValue
    bindings := d.bindings.withoutValues }

theorem edit_withoutValues (d : Draft) (e : Edit) :
    d.withoutValues.edit e.withoutValues = (d.edit e).withoutValues := by
  cases e with
  | filter condition =>
    simp only [Edit.withoutValues, edit, addCondition, withoutValues, List.map_append,
      Bindings.withoutValues, Ordered.map_insert]
    rfl
  | table name | select columns | join join => rfl

theorem addInserted_withoutValues (d : Draft) (fields : Fields) :
    d.withoutValues.addInserted fields.withoutValues = (d.addInserted fields).withoutValues := by
  simp only [addInserted, withoutValues, Fields.columns_withoutValues,
    Bindings.extend_withoutValues]

theorem addUpdated_withoutValues (d : Draft) (fields : Fields) :
    d.withoutValues.addUpdated fields.withoutValues = (d.addUpdated fields).withoutValues := by
  simp only [addUpdated, withoutValues, Fields.columns_withoutValues,
    Bindings.extend_withoutValues]

theorem conditionsSql_withoutValue (conditions : List Condition) :
    conditionsSql (conditions.map Condition.withoutValue) = conditionsSql conditions := by
  cases conditions with
  | nil => rfl
  | cons first rest =>
    rw [List.map_cons, conditionsSql, conditionsSql, List.map_map]
    rfl

/-- **No value is written**: the text of a draft is that of its erasure. -/
theorem sql_withoutValues (d : Draft) (verb : Verb) : d.withoutValues.sql verb = d.sql verb := by
  have hconditions : conditionsSql d.withoutValues.conditions = conditionsSql d.conditions :=
    conditionsSql_withoutValue d.conditions
  cases verb with
  | insert | insertReturningId => rfl
  | select =>
    show d.withoutValues.selectSql = d.selectSql
    unfold selectSql
    rw [hconditions]
    rfl
  | update =>
    show d.withoutValues.updateSql = d.updateSql
    unfold updateSql
    rw [hconditions]
    rfl
  | delete =>
    show d.withoutValues.deleteSql = d.deleteSql
    unfold deleteSql
    rw [hconditions]
    rfl

theorem compile_withoutValues (d : Draft) (dialect : Dialect) (verb : Verb) :
    d.withoutValues.compile dialect verb = (d.compile dialect verb).map Prepared.withoutValues := by
  unfold compile
  rw [sql_withoutValues]
  split <;> rfl

/-- **Preparing commutes with erasure**, also where it fails. -/
theorem prepare_withoutValues (d : Draft) (dialect : Dialect) (verb : Verb) :
    d.withoutValues.prepare dialect verb = (d.prepare dialect verb).map Prepared.withoutValues := by
  unfold prepare
  rw [show d.withoutValues.check verb = d.check verb from rfl, compile_withoutValues]
  cases d.check verb <;> rfl

end Draft

/-! ## Positional SQL -/

namespace Positional

variable (dialect : Dialect) (bindings : Bindings)

def State.withoutValues (s : State) : State := { s with values := s.values.map fun _ => .null }

def Result.withoutValues (r : Result) : Result := { r with values := r.values.map fun _ => .null }

theorem bind_withoutValues (s : State) (reversed : List Char) :
    s.withoutValues.bind dialect bindings.withoutValues reversed =
      (s.bind dialect bindings reversed).map State.withoutValues := by
  have hget : bindings.withoutValues.get? (String.ofList (':' :: reversed.reverse)) =
      (bindings.get? (String.ofList (':' :: reversed.reverse))).map fun _ => .null :=
    Ordered.get?_map _ bindings _
  cases h : bindings.get? (String.ofList (':' :: reversed.reverse)) with
  | some value =>
    rw [h] at hget
    rw [State.bind_of_some dialect bindings h, State.bind_of_some dialect _ hget]
    simp [State.bound, State.withoutValues, State.write, Except.map]
  | none =>
    rw [h] at hget
    rw [State.bind_of_none dialect bindings h, State.bind_of_none dialect _ hget]
    rfl

theorem readPlain_withoutValues (s : State) (c : Char) :
    s.withoutValues.readPlain c = (s.readPlain c).withoutValues := by
  unfold State.readPlain
  split <;> rfl

theorem step_withoutValues (s : State) (c : Char) :
    step dialect bindings.withoutValues s.withoutValues c =
      (step dialect bindings s c).map State.withoutValues := by
  unfold step
  rw [show s.withoutValues.mode = s.mode from rfl]
  cases s.mode with
  | plain => exact congrArg Except.ok (readPlain_withoutValues s c)
  | quoted closing => rfl
  | colon =>
    by_cases hc : c = ':'
    · simp only [hc, if_true]
      rfl
    · cases hstart : Word.isStart c with
      | true =>
        simp only [hc, if_false, if_true]
        rfl
      | false =>
        simp only [hc, if_false, Bool.false_eq_true]
        exact congrArg Except.ok (readPlain_withoutValues (s.write [':']) c)
  | name reversed =>
    cases hpart : Word.isPart c with
    | true =>
      simp only [if_true]
      rfl
    | false =>
      simp only [if_false, Bool.false_eq_true, bind_withoutValues]
      cases s.bind dialect bindings reversed with
      | error problem => rfl
      | ok next => exact congrArg Except.ok (readPlain_withoutValues next c)

theorem finish_withoutValues (s : State) :
    finish dialect bindings.withoutValues s.withoutValues =
      (finish dialect bindings s).map State.withoutValues := by
  unfold finish
  rw [show s.withoutValues.mode = s.mode from rfl]
  cases s.mode with
  | plain | quoted closing | colon => rfl
  | name reversed => exact bind_withoutValues dialect bindings s reversed

/-- The machine takes the same course whatever the values are. -/
theorem complete_withoutValues (s : State) (text : List Char) :
    complete dialect bindings.withoutValues s.withoutValues text =
      (complete dialect bindings s text).map State.withoutValues := by
  induction text generalizing s with
  | nil => exact finish_withoutValues dialect bindings s
  | cons c text ih =>
    rw [complete_cons, complete_cons, step_withoutValues]
    cases step dialect bindings s c with
    | error problem => rfl
    | ok next => exact ih next

theorem result_withoutValues (s : State) : s.withoutValues.result = s.result.withoutValues := by
  simp [State.result, State.withoutValues, Result.withoutValues]

/-- **Rewriting commutes with erasure**, also where it fails. -/
theorem positional_withoutValues (sql : String) :
    positional dialect bindings.withoutValues sql =
      (positional dialect bindings sql).map Result.withoutValues := by
  have hcomplete := complete_withoutValues dialect bindings start sql.toList
  rw [positional_eq, positional_eq]
  rw [show start.withoutValues = start from rfl] at hcomplete
  rw [hcomplete]
  cases complete dialect bindings start sql.toList with
  | error problem => rfl
  | ok s =>
    show Except.ok s.withoutValues.result = Except.ok s.result.withoutValues
    rw [result_withoutValues]

end Positional

end SqlBuilder
