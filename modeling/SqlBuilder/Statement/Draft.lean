import SqlBuilder.Statement.Clause
import SqlBuilder.Statement.Column

/-!
# Drafts

A draft is everything that has been said so far about the statement in progress.  Conditions and
fields bind their values under the parameters of their columns at the time they are added; a
parameter that is bound again keeps its place among the bindings and takes the new value.
-/
namespace SqlBuilder

structure Draft where
  table : String
  /-- The columns to read; none stands for all. -/
  selected : List String
  inserted : List String
  updated : List String
  joins : List Join
  conditions : List Condition
  bindings : Bindings

/-- Columns and the values that an insert or update gives them, in order. -/
abbrev Fields := List (String × Value)

/-- The bindings of fields alone. -/
def Bindings.ofFields (fields : Fields) : Bindings :=
  Ordered.ofList (fields.map fun field => (Column.parameter field.1, field.2))

namespace Draft

/-- The draft of which nothing has been said. -/
def blank : Draft := ⟨"", [], [], [], [], [], .empty⟩

instance : Inhabited Draft := ⟨blank⟩

def isBlank (d : Draft) : Bool :=
  d.table.isEmpty && d.selected.isEmpty && d.inserted.isEmpty && d.updated.isEmpty &&
    d.joins.isEmpty && d.conditions.isEmpty && d.bindings.isEmpty

/-- Adds a condition and binds its value. -/
def addCondition (d : Draft) (condition : Condition) : Draft :=
  { d with
    conditions := d.conditions ++ [condition]
    bindings := d.bindings.insert (Column.parameter condition.column) condition.value }

/-- Adds fields to insert and binds their values. -/
def addInserted (d : Draft) (fields : Fields) : Draft :=
  { d with
    inserted := d.inserted ++ fields.map Prod.fst
    bindings := d.bindings.extend (Bindings.ofFields fields) }

/-- Adds fields to update and binds their values. -/
def addUpdated (d : Draft) (fields : Fields) : Draft :=
  { d with
    updated := d.updated ++ fields.map Prod.fst
    bindings := d.bindings.extend (Bindings.ofFields fields) }

/-- A change of the draft that a caller asks for by itself, before the statement is run. -/
inductive Edit where
  | table (name : String)
  | select (columns : List String)
  | filter (condition : Condition)
  | join (join : Join)

/-- Applies an edit.  A table replaces the one before; everything else is added at the end. -/
def edit (d : Draft) : Edit → Draft
  | .table name => { d with table := name }
  | .select columns => { d with selected := d.selected ++ columns }
  | .filter condition => d.addCondition condition
  | .join join => { d with joins := d.joins ++ [join] }

end Draft

end SqlBuilder
