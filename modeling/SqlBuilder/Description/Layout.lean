import SqlBuilder.Text.Quoted

/-!
# Layout of descriptions

Data is described in one line, for logs and for whoever looks for an error.  A description names the
kind of thing it describes and then shows its parts; texts are quoted.
-/
namespace SqlBuilder.Description

def separated (parts : List String) : String := ", ".intercalate parts

/-- A name with parts in parentheses. -/
def tagged (name : String) (parts : List String) : String := name ++ "(" ++ separated parts ++ ")"

/-- A name with named parts in braces. -/
def record (name : String) (fields : List (String × String)) : String :=
  name ++ " \x7b " ++ separated (fields.map fun field => field.1 ++ ": " ++ field.2) ++ " \x7d"

def list (items : List String) : String := "[" ++ separated items ++ "]"

/-- Entries of a map whose names are texts. -/
def map (entries : List (String × String)) : String :=
  "\x7b" ++ separated (entries.map fun entry => quoted entry.1 ++ ": " ++ entry.2) ++ "\x7d"

/-- Something that may be missing. -/
def optional (part : Option String) : String :=
  match part with
  | some part => tagged "Some" [part]
  | none => "None"

end SqlBuilder.Description
