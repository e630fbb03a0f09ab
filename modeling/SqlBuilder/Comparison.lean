/-!
# Comparison operators

An operator between two sides of a condition is whatever text the database understands.  The common
ones have a second spelling that is brought to the first.
-/
namespace SqlBuilder

/-- An operator, by its text in SQL. -/
structure Comparison where
  symbol : String
deriving DecidableEq

namespace Comparison

def equal : Comparison := ⟨"="⟩
def notEqual : Comparison := ⟨"!="⟩
def greater : Comparison := ⟨">"⟩
def less : Comparison := ⟨"<"⟩
def atLeast : Comparison := ⟨">="⟩
def atMost : Comparison := ⟨"<="⟩
def like : Comparison := ⟨"LIKE"⟩
def likeAnyCase : Comparison := ⟨"ILIKE"⟩

/-- The spellings that are not kept as they are given. -/
def spellings : List (String × Comparison) :=
  [("<>", notEqual), ("like", like), ("ilike", likeAnyCase)]

/-- The operator that a text names: another spelling of a common operator, or the text itself. -/
def ofText (text : String) : Comparison := (spellings.lookup text).getD ⟨text⟩

end Comparison

end SqlBuilder
