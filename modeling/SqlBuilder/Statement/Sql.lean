import SqlBuilder.Statement.Draft

/-!
# The SQL of a draft

Each kind of statement has one text, made of the draft's own fragments with fixed words and
separators between them.  Values never appear in it: a value is represented by the named parameter
of its column.
-/
namespace SqlBuilder.Draft

def commaSeparated (parts : List String) : String := ", ".intercalate parts

/-- One condition behind the word that leads it. -/
def conditionSql (lead : String) (c : Condition) : String :=
  " " ++ lead ++ " " ++ c.column ++ " " ++ c.comparison.symbol ++ " " ++ Column.parameter c.column

/-- All conditions: the first is led by `WHERE`, the others by their conjunctions. -/
def conditionsSql : List Condition → String
  | [] => ""
  | first :: rest =>
      conditionSql "WHERE" first ++
        String.join (rest.map fun c => conditionSql c.conjunction.word c)

def joinSql (j : Join) : String :=
  " " ++ j.kind.words ++ " " ++ j.table ++ " ON " ++ j.first ++ " " ++ j.comparison.symbol ++ " " ++
    j.second

def joinsSql (joins : List Join) : String := String.join (joins.map joinSql)

/-- A read of the selected columns, with joins before conditions. -/
def selectSql (d : Draft) : String :=
  "SELECT " ++ (if d.selected.isEmpty then "*" else commaSeparated d.selected) ++
    " FROM " ++ d.table ++ joinsSql d.joins ++ conditionsSql d.conditions

def insertSql (d : Draft) : String :=
  "INSERT INTO " ++ d.table ++ " (" ++ commaSeparated d.inserted ++ ") VALUES (" ++
    commaSeparated (d.inserted.map Column.parameter) ++ ")"

/-- The column in which an insert hands back the generated id. -/
def idColumn : String := "id"

def insertReturningIdSql (d : Draft) : String := d.insertSql ++ " RETURNING " ++ idColumn

/-- A column and its new value in an update. -/
def assignment (column : String) : String := column ++ " = " ++ Column.parameter column

def updateSql (d : Draft) : String :=
  "UPDATE " ++ d.table ++ " SET " ++ commaSeparated (d.updated.map assignment) ++
    conditionsSql d.conditions

def deleteSql (d : Draft) : String :=
  "DELETE FROM " ++ d.table ++ conditionsSql d.conditions

/-- The text of a statement of the given kind. -/
def sql (d : Draft) : Verb → String
  | .select => d.selectSql
  | .insert => d.insertSql
  | .insertReturningId => d.insertReturningIdSql
  | .update => d.updateSql
  | .delete => d.deleteSql

end SqlBuilder.Draft
