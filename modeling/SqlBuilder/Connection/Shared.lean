import SqlBuilder.Connection.Session

/-!
# Shared sessions

An application creates one session and passes it around.  Whoever builds a statement holds the
session meanwhile, so two callers take turns and do not add clauses at the same time.  A session is
handed out as the last holder left it.  Only a holder that breaks down leaves it poisoned for good:
from then on it is handed out blank.
-/
namespace SqlBuilder

structure Shared (σ : Type) where
  session : Session σ
  /-- A holder has broken down at some time. -/
  poisoned : Bool

namespace Shared

variable {α σ : Type}

def ofSession (session : Session σ) : Shared σ := ⟨session, false⟩

def new (backend : Backend σ) (connection : σ) : Shared σ := ofSession (.new backend connection)

/-- The session as it is handed out. -/
def query (shared : Shared σ) : Session σ :=
  if shared.poisoned then shared.session.reset else shared.session

/-- The session handed out to begin a statement on a table. -/
def table (shared : Shared σ) (name : String) : Session σ := shared.query.table name

/-- The session is given back by a holder, who may have broken down. -/
def release (shared : Shared σ) (session : Session σ) (brokeDown : Bool) : Shared σ :=
  ⟨session, shared.poisoned || brokeDown⟩

/-- Takes the session for one operation. -/
def withSession (shared : Shared σ) (operation : Session σ → Except Error α × Session σ) :
    Except Error α × Shared σ :=
  let (outcome, session) := operation shared.query
  (outcome, shared.release session false)

def begin (shared : Shared σ) : Except Error Unit × Shared σ :=
  shared.withSession Session.begin

def commit (shared : Shared σ) : Except Error Unit × Shared σ :=
  shared.withSession Session.commit

def rollback (shared : Shared σ) : Except Error Unit × Shared σ :=
  shared.withSession Session.rollback

end Shared

end SqlBuilder
