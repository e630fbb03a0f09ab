import SqlBuilder.Connection.Execution

/-!
# Sessions

A session builds statements on one connection.  Edits add to its draft; a terminal operation takes
the draft out first, so that the session is blank again when the operation returns, whether the
statement succeeded, was refused before it was sent, or failed in the database.  Previews,
statements prepared elsewhere and transaction control leave the draft as it is.
-/
namespace SqlBuilder

structure Session (σ : Type) where
  backend : Backend σ
  connection : σ
  draft : Draft

namespace Session

variable {α σ : Type}

/-- A session of which nothing has been asked yet. -/
def new (backend : Backend σ) (connection : σ) : Session σ := ⟨backend, connection, .blank⟩

/-- The dialect that statements are written for. -/
def dialect (s : Session σ) : Dialect := s.backend.dialect

/-- Forgets the draft. -/
def reset (s : Session σ) : Session σ := { s with draft := .blank }

/-! ## Building the statement -/

def edit (s : Session σ) (e : Draft.Edit) : Session σ := { s with draft := s.draft.edit e }

/-- Names the table of the statement. -/
def table (s : Session σ) (name : String) : Session σ := s.edit (.table name)

/-- Adds columns to read. -/
def select (s : Session σ) (columns : List String) : Session σ := s.edit (.select columns)

/-- Adds a condition on a column. -/
def filter (s : Session σ) (column : String) (comparison : Comparison) (value : Value)
    (conjunction : Conjunction := .and) : Session σ :=
  s.edit (.filter ⟨column, comparison, value, conjunction⟩)

/-- Joins a table. -/
def join (s : Session σ) (table first : String) (comparison : Comparison) (second : String)
    (kind : JoinKind := .inner) : Session σ :=
  s.edit (.join ⟨kind, table, first, comparison, second⟩)

/-- The statement that the draft stands for now. -/
def preview (s : Session σ) (verb : Verb) : Except Error Prepared := s.draft.prepare s.dialect verb

/-- Carries a plan out on the connection. -/
def run (s : Session σ) (plan : Plan α) : Except Error α × Session σ :=
  let (outcome, connection) := plan.run s.backend s.connection
  (outcome, { s with connection })

/-! ## Terminal operations -/

/-- Runs the read and gives its rows. -/
def get (s : Session σ) : Except Error (List Row) × Session σ :=
  s.reset.run (s.draft.fetch s.dialect)

/-- Runs the read and decodes each of its rows. -/
def getAs (s : Session σ) (decode : Json → Except DecodeError α) :
    Except Error (List α) × Session σ :=
  let (outcome, s) := s.get
  (outcome.bind (decodeRows decode), s)

/-- Inserts one record. -/
def insert (s : Session σ) (fields : Fields) : Except Error Bool × Session σ :=
  s.reset.run (s.draft.store s.dialect fields)

/-- Inserts one record and gives the id that the database generated for it. -/
def insertReturningId (s : Session σ) (fields : Fields) : Except Error Int64 × Session σ :=
  s.reset.run (s.draft.storeReturningId s.dialect fields)

/-- Updates the matching records. -/
def update (s : Session σ) (fields : Fields) : Except Error Bool × Session σ :=
  s.reset.run (s.draft.change s.dialect fields)

/-- Deletes the matching records. -/
def delete (s : Session σ) : Except Error Bool × Session σ :=
  s.reset.run (s.draft.remove s.dialect)

/-! ## Other operations on the connection -/

/-- Runs a statement that was prepared before. -/
def execute (s : Session σ) (p : Prepared) : Except Error Answer × Session σ := s.run p.execution

/-- Starts a transaction. -/
def begin (s : Session σ) : Except Error Unit × Session σ := s.run (.ask .begin id)

def commit (s : Session σ) : Except Error Unit × Session σ := s.run (.ask .commit id)

def rollback (s : Session σ) : Except Error Unit × Session σ := s.run (.ask .rollback id)

end Session

end SqlBuilder
