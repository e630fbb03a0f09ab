import SqlBuilder.Comparison
import SqlBuilder.Value.Basic

/-!
# Clauses

The conditions and joins of a statement, and the kinds of statement that they can be part of.
-/
namespace SqlBuilder

/-- How a condition is connected to the ones before it. -/
inductive Conjunction where
  | and
  | or
deriving DecidableEq, Inhabited

def Conjunction.word : Conjunction → String
  | and => "AND"
  | or => "OR"

/-- A condition on a column.  The first condition of a statement follows `WHERE`, whatever its
conjunction is. -/
structure Condition where
  column : String
  comparison : Comparison
  value : Value
  conjunction : Conjunction

inductive JoinKind where
  | inner
  | left
  | right
  | full
  | cross
deriving DecidableEq, Inhabited

def JoinKind.words : JoinKind → String
  | inner => "JOIN"
  | left => "LEFT JOIN"
  | right => "RIGHT JOIN"
  | full => "FULL OUTER JOIN"
  | cross => "CROSS JOIN"

/-- A joined table and the comparison that its rows have to meet. -/
structure Join where
  kind : JoinKind
  table : String
  first : String
  comparison : Comparison
  second : String
deriving DecidableEq

/-- What a statement does. -/
inductive Verb where
  | select
  | insert
  /-- An insert that hands back the id that the database generated. -/
  | insertReturningId
  | update
  | delete
deriving DecidableEq

namespace Verb

def all : List Verb := [select, insert, insertReturningId, update, delete]

/-- The operation that asks for the statement. -/
def label : Verb → String
  | select => "select"
  | insert => "insert"
  | insertReturningId => "insert_get_id"
  | update => "update"
  | delete => "delete"

end Verb

end SqlBuilder
