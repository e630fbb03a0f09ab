import SqlBuilder.Connection.Error
import SqlBuilder.Value.Basic

/-!
# From named to positional parameters

Drivers take parameters by position.  A machine reads SQL text one character at a time, replaces
every named parameter by the dialect's marker and collects the values in the order in which the
parameters occur; a name that occurs twice is bound twice.  Quoted text is left alone up to its
closing quote or the end, and so is a pair of colons, which is a type cast.
-/
namespace SqlBuilder

namespace Positional

/-- Where the machine is in the text. -/
inductive Mode where
  | plain
  /-- Inside quoted text, up to the given character. -/
  | quoted (closing : Char)
  /-- Behind a colon that may begin a parameter or a cast. -/
  | colon
  /-- Inside the name of a parameter; the characters read so far, the last first. -/
  | name (reversed : List Char)
deriving DecidableEq

structure State where
  mode : Mode
  /-- The text written so far, the last character first. -/
  written : List Char
  /-- The values bound so far, the last first. -/
  values : List Value

def start : State := ⟨.plain, [], []⟩

def isQuote (c : Char) : Bool := c == '\'' || c == '"' || c == '\x60'

/-- Writes characters. -/
def State.write (s : State) (text : List Char) : State :=
  { s with written := text.reverse ++ s.written }

/-- Reads a character outside of quotes, parameters and casts. -/
def State.readPlain (s : State) (c : Char) : State :=
  if c = ':' then { s with mode := .colon }
  else { s.write [c] with mode := if isQuote c then .quoted c else .plain }

/-- Ends the name of a parameter: its value is bound, and a marker takes its place. -/
def State.bind (dialect : Dialect) (bindings : Bindings) (s : State) (reversed : List Char) :
    Except QueryProblem State :=
  let parameter := String.ofList (':' :: reversed.reverse)
  match bindings.get? parameter with
  | some value =>
      .ok { (s.write (dialect.marker (s.values.length + 1)).toList) with
        mode := .plain
        values := value :: s.values }
  | none => .error (.unbound parameter)

/-- Reads one character. -/
def step (dialect : Dialect) (bindings : Bindings) (s : State) (c : Char) :
    Except QueryProblem State :=
  match s.mode with
  | .plain => .ok (s.readPlain c)
  | .quoted closing =>
      .ok { s.write [c] with mode := if c = closing then .plain else .quoted closing }
  | .colon =>
      if c = ':' then .ok { s.write [':', ':'] with mode := .plain }
      else if Word.isStart c then .ok { s with mode := .name [c] }
      else .ok ((s.write [':']).readPlain c)
  | .name reversed =>
      if Word.isPart c then .ok { s with mode := .name (c :: reversed) }
      else do return (← s.bind dialect bindings reversed).readPlain c

/-- Ends the text. -/
def finish (dialect : Dialect) (bindings : Bindings) (s : State) : Except QueryProblem State :=
  match s.mode with
  | .plain => .ok s
  | .quoted _ => .ok s
  | .colon => .ok (s.write [':'])
  | .name reversed => s.bind dialect bindings reversed

/-- SQL text with markers, and the values that they stand for in order. -/
structure Result where
  sql : String
  values : List Value

end Positional

/-- SQL text with the dialect's markers in place of its named parameters.  A parameter without a
value is an error. -/
def positional (dialect : Dialect) (bindings : Bindings) (sql : String) :
    Except Error Positional.Result :=
  let run := do
    let s ← sql.toList.foldlM (Positional.step dialect bindings) Positional.start
    Positional.finish dialect bindings s
  match run with
  | .ok s => .ok ⟨String.ofList s.written.reverse, s.values.reverse⟩
  | .error problem => .error (.invalidQuery problem)

end SqlBuilder
