import SqlBuilder.Connection.Session

/-!
# Runs of operations

The public operations of a session as data, so that a run is a list of them.  `Session.perform`
carries one out, and `Session.performAll` a whole run.
-/
namespace SqlBuilder

inductive Operation where
  | edit (e : Draft.Edit)
  | preview (verb : Verb)
  | get
  | getAs (decode : Reader)
  | insert (fields : Fields)
  | insertReturningId (fields : Fields)
  | update (fields : Fields)
  | delete
  | execute (p : Prepared)
  | begin
  | commit
  | rollback

/-- What a successful operation gives. -/
inductive Outcome where
  | done
  | prepared (p : Prepared)
  | rows (rows : List Row)
  | decoded (items : List Json)
  | flag (b : Bool)
  | id (id : Int64)
  | answer (answer : Answer)

namespace Session

variable {σ : Type}

/-- Carries an operation out. -/
def perform (s : Session σ) : Operation → Except Error Outcome × Session σ
  | .edit e => (.ok .done, s.edit e)
  | .preview verb => ((s.preview verb).map .prepared, s)
  | .get => let (outcome, s) := s.get; (outcome.map .rows, s)
  | .getAs decode => let (outcome, s) := s.getAs decode; (outcome.map .decoded, s)
  | .insert fields => let (outcome, s) := s.insert fields; (outcome.map .flag, s)
  | .insertReturningId fields =>
      let (outcome, s) := s.insertReturningId fields; (outcome.map .id, s)
  | .update fields => let (outcome, s) := s.update fields; (outcome.map .flag, s)
  | .delete => let (outcome, s) := s.delete; (outcome.map .flag, s)
  | .execute p => let (outcome, s) := s.execute p; (outcome.map .answer, s)
  | .begin => let (outcome, s) := s.begin; (outcome.map fun _ => .done, s)
  | .commit => let (outcome, s) := s.commit; (outcome.map fun _ => .done, s)
  | .rollback => let (outcome, s) := s.rollback; (outcome.map fun _ => .done, s)

/-- Carries operations out one after the other; the outcomes are in their order. -/
def performAll (s : Session σ) : List Operation → List (Except Error Outcome) × Session σ
  | [] => ([], s)
  | operation :: rest =>
      let (outcome, s) := s.perform operation
      let (outcomes, s) := s.performAll rest
      (outcome :: outcomes, s)

end Session

end SqlBuilder
