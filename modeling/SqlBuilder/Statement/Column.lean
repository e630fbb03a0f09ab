import SqlBuilder.Text.Word

/-!
# Columns and their parameters

A column may be qualified by tables and schemas and quoted in any dialect's way.  The value that a
statement binds to it has a named parameter: a colon and the bare name of the column, in which every
character that a parameter cannot carry is an underscore.  So `users.id` and `"id"` share the
parameter `:id`.
-/
namespace SqlBuilder.Column

/-- The characters that dialects put around identifiers. -/
def isQuote (c : Char) : Bool := c ∈ ['"', '\x60', '[', ']']

/-- What follows the last dot. -/
def lastSegment (column : List Char) : List Char :=
  (column.reverse.takeWhile (· ≠ '.')).reverse

/-- A text without quote characters at its two ends. -/
def unquote (name : List Char) : List Char :=
  ((name.dropWhile isQuote).reverse.dropWhile isQuote).reverse

/-- The name of a column without its qualification and its quotes. -/
def bareName (column : String) : String :=
  String.ofList (unquote (lastSegment column.toList))

/-- A character as a parameter carries it. -/
def wordChar (c : Char) : Char := if Word.isPart c then c else '_'

/-- The named parameter of a column. -/
def parameter (column : String) : String :=
  String.ofList (':' :: (unquote (lastSegment column.toList)).map wordChar)

end SqlBuilder.Column
