import SqlBuilder.Connection.Operation

/-!
# Operations as plans

What an operation does has two sides, and neither looks at the connection.  `Draft.plan` is what it
asks of the connection and what it makes of the reply, and `Draft.after` is the draft that it
leaves; both are functions of the draft and the dialect.  `perform_eq` says that performing an
operation is to carry out its plan and to leave that draft, whatever the connection replies.
Everything about runs is derived from this one statement.

To speak of what a connection sees, `Backend.recorded` keeps a record of the calls beside the
connection's own state, together with the replies.  Recording changes nothing
(`performAll_recorded`), and the record of a run is put together from the records of its operations
(`exchanges_cons`).
-/
namespace SqlBuilder

/-! ## The two sides of an operation -/

namespace Operation

/-- Whether the operation runs the statement in progress and begins a new one. -/
def isTerminal : Operation → Bool
  | .get | .getAs _ | .insert _ | .insertReturningId _ | .update _ | .delete => true
  | _ => false

/-- The edit of the draft that the operation is. -/
def edit? : Operation → Option Draft.Edit
  | .edit e => some e
  | _ => none

end Operation

namespace Draft

/-- What an operation asks of the connection. -/
def plan (d : Draft) (dialect : Dialect) : Operation → Plan Outcome
  | .edit _ => .settled (.ok .done)
  | .preview verb => .settled ((d.prepare dialect verb).map .prepared)
  | .get => (d.fetch dialect).andThen fun rows => .ok (.rows rows)
  | .getAs decode =>
      (d.fetch dialect).andThen fun rows => (decodeRows decode rows).map .decoded
  | .insert fields => (d.store dialect fields).andThen fun flag => .ok (.flag flag)
  | .insertReturningId fields =>
      (d.storeReturningId dialect fields).andThen fun id => .ok (.id id)
  | .update fields => (d.change dialect fields).andThen fun flag => .ok (.flag flag)
  | .delete => (d.remove dialect).andThen fun flag => .ok (.flag flag)
  | .execute p => p.execution.andThen fun answer => .ok (.answer answer)
  | .begin => .ask .begin fun reply => reply.map fun _ => .done
  | .commit => .ask .commit fun reply => reply.map fun _ => .done
  | .rollback => .ask .rollback fun reply => reply.map fun _ => .done

/-- The draft that an operation leaves. -/
def after (d : Draft) : Operation → Draft
  | .edit e => d.edit e
  | operation => if operation.isTerminal then .blank else d

theorem after_of_isTerminal (d : Draft) {operation : Operation}
    (h : operation.isTerminal = true) : d.after operation = .blank := by
  cases operation with
  | edit e => cases h
  | _ => first | rfl | cases h

/-- Only edits and terminal operations change the draft. -/
theorem after_of_edit?_eq_none (d : Draft) {operation : Operation}
    (h : operation.isTerminal = false) (hedit : operation.edit? = none) :
    d.after operation = d := by
  cases operation with
  | edit e => cases hedit
  | _ => first | rfl | cases h

end Draft

theorem Plan.run_andThen {α β σ : Type} (plan : Plan α) (next : α → Except Error β)
    (backend : Backend σ) (state : σ) :
    (plan.andThen next).run backend state =
      ((plan.run backend state).1.bind next, (plan.run backend state).2) := by
  cases plan <;> rfl

theorem except_map_eq_bind {ε α β : Type} (f : α → β) (x : Except ε α) :
    x.map f = x.bind fun a => .ok (f a) := by
  cases x <;> rfl

namespace Session

variable {σ : Type}

/-- **An operation carries its plan out** and leaves the draft that it leaves, whatever the
connection replies. -/
theorem perform_eq (s : Session σ) (operation : Operation) :
    s.perform operation =
      (((s.draft.plan s.dialect operation).run s.backend s.connection).1,
        ⟨s.backend, ((s.draft.plan s.dialect operation).run s.backend s.connection).2,
          s.draft.after operation⟩) := by
  cases operation with
  | edit e => rfl
  | preview verb => rfl
  | getAs decode =>
    show ((((s.draft.fetch s.dialect).run s.backend s.connection).1.bind (decodeRows decode)).map
      Outcome.decoded, _) = _
    rw [Draft.plan, Plan.run_andThen]
    cases ((s.draft.fetch s.dialect).run s.backend s.connection).1 <;> rfl
  | get | insert fields | insertReturningId fields | update fields | delete | execute p =>
    rw [Draft.plan, Plan.run_andThen, ← except_map_eq_bind]
    rfl
  | begin | commit | rollback => rfl

@[simp] theorem backend_perform (s : Session σ) (operation : Operation) :
    (s.perform operation).2.backend = s.backend := by
  rw [perform_eq]

@[simp] theorem draft_perform (s : Session σ) (operation : Operation) :
    (s.perform operation).2.draft = s.draft.after operation := by
  rw [perform_eq]

theorem performAll_cons (s : Session σ) (operation : Operation) (rest : List Operation) :
    s.performAll (operation :: rest) =
      ((s.perform operation).1 :: ((s.perform operation).2.performAll rest).1,
        ((s.perform operation).2.performAll rest).2) := rfl

@[simp] theorem backend_performAll (s : Session σ) (operations : List Operation) :
    (s.performAll operations).2.backend = s.backend := by
  induction operations generalizing s with
  | nil => rfl
  | cons operation rest ih => rw [performAll_cons, ih, backend_perform]

@[simp] theorem dialect_performAll (s : Session σ) (operations : List Operation) :
    (s.performAll operations).2.dialect = s.dialect :=
  congrArg Backend.dialect (backend_performAll s operations)

/-- The draft of a run depends on the operations alone. -/
theorem draft_performAll (s : Session σ) (operations : List Operation) :
    (s.performAll operations).2.draft = operations.foldl Draft.after s.draft := by
  induction operations generalizing s with
  | nil => rfl
  | cons operation rest ih => rw [performAll_cons, ih, draft_perform, List.foldl_cons]

end Session

/-! ## Runs over related connections -/

/-- Backends of one dialect whose connections, where they are related, answer every call alike and are
related again afterwards. -/
structure Backend.AnswersAlike {σ τ : Type} (backend : Backend σ) (other : Backend τ)
    (related : σ → τ → Prop) : Prop where
  dialect_eq : backend.dialect = other.dialect
  answer (call : Call) (state : σ) (state' : τ) (h : related state state') :
    (backend.answer call state).1 = (other.answer call state').1 ∧
      related (backend.answer call state).2 (other.answer call state').2

namespace Session

variable {σ τ : Type} {related : σ → τ → Prop} {s : Session σ} {t : Session τ}

theorem perform_of_related (hbackend : s.backend.AnswersAlike t.backend related)
    (hdraft : s.draft = t.draft) (h : related s.connection t.connection) (operation : Operation) :
    (s.perform operation).1 = (t.perform operation).1 ∧
      related (s.perform operation).2.connection (t.perform operation).2.connection := by
  have hdialect : s.dialect = t.dialect := hbackend.dialect_eq
  rw [perform_eq, perform_eq, hdraft, hdialect]
  cases t.draft.plan t.dialect operation with
  | settled outcome => exact ⟨rfl, h⟩
  | ask call conclude =>
    obtain ⟨hreply, hrelated⟩ := hbackend.answer call _ _ h
    exact ⟨congrArg conclude hreply, hrelated⟩

/-- **Related connections that answer alike** cannot be told apart by a run, and stay related. -/
theorem performAll_of_related (hbackend : s.backend.AnswersAlike t.backend related)
    (hdraft : s.draft = t.draft) (h : related s.connection t.connection)
    (operations : List Operation) :
    (s.performAll operations).1 = (t.performAll operations).1 ∧
      related (s.performAll operations).2.connection (t.performAll operations).2.connection := by
  induction operations generalizing s t with
  | nil => exact ⟨rfl, h⟩
  | cons operation rest ih =>
    obtain ⟨houtcome, hrelated⟩ := perform_of_related hbackend hdraft h operation
    have hbackend' : (s.perform operation).2.backend.AnswersAlike (t.perform operation).2.backend
        related := by
      rw [backend_perform, backend_perform]
      exact hbackend
    have hdraft' : (s.perform operation).2.draft = (t.perform operation).2.draft := by
      rw [draft_perform, draft_perform, hdraft]
    obtain ⟨houtcomes, hrest⟩ := ih hbackend' hdraft' hrelated
    rw [performAll_cons, performAll_cons, houtcome, houtcomes]
    exact ⟨rfl, hrest⟩

/-- What every call keeps, a run keeps. -/
theorem connection_performAll (s : Session σ) (inv : σ → Prop)
    (hstep : ∀ call state, inv state → inv (s.backend.answer call state).2)
    (h : inv s.connection) (operations : List Operation) :
    inv (s.performAll operations).2.connection := by
  have hbackend : s.backend.AnswersAlike s.backend fun state state' =>
      state = state' ∧ inv state := by
    refine ⟨rfl, ?_⟩
    rintro call state _ ⟨rfl, hstate⟩
    exact ⟨rfl, rfl, hstep call state hstate⟩
  exact (performAll_of_related hbackend rfl ⟨rfl, h⟩ operations).2.2

end Session

/-! ## What the connection sees -/

/-- A call and the reply to it. -/
structure Exchange where
  call : Call
  reply : Except Error call.Reply

/-- A connection that keeps a record of all exchanges. -/
def Backend.recorded {σ : Type} (backend : Backend σ) : Backend (σ × List Exchange) where
  dialect := backend.dialect
  answer call state :=
    let (reply, next) := backend.answer call state.1
    (reply, next, state.2 ++ [⟨call, reply⟩])

/-- The exchanges that carrying a plan out takes: one or none. -/
def Plan.exchanges {α σ : Type} (plan : Plan α) (backend : Backend σ) (state : σ) :
    List Exchange :=
  match plan with
  | .settled _ => []
  | .ask call _ => [⟨call, (backend.answer call state).1⟩]

theorem Plan.run_recorded {α σ : Type} (plan : Plan α) (backend : Backend σ) (state : σ)
    (record : List Exchange) :
    plan.run backend.recorded (state, record) =
      ((plan.run backend state).1,
        (plan.run backend state).2, record ++ plan.exchanges backend state) := by
  cases plan with
  | settled outcome => simp [Plan.run, Plan.exchanges]
  | ask call conclude => rfl

namespace Session

variable {σ : Type}

/-- The session on a connection whose record is empty. -/
def recorded (s : Session σ) : Session (σ × List Exchange) :=
  ⟨s.backend.recorded, (s.connection, []), s.draft⟩

/-- The exchanges of a run, in order. -/
def exchanges (s : Session σ) (operations : List Operation) : List Exchange :=
  (s.recorded.performAll operations).2.connection.2

/-- The calls of a run, in order. -/
def calls (s : Session σ) (operations : List Operation) : List Call :=
  (s.exchanges operations).map Exchange.call

theorem perform_recorded (s : Session σ) (record : List Exchange) (operation : Operation) :
    (⟨s.backend.recorded, (s.connection, record), s.draft⟩ : Session _).perform operation =
      ((s.perform operation).1,
        ⟨s.backend.recorded, ((s.perform operation).2.connection,
          record ++ (s.draft.plan s.dialect operation).exchanges s.backend s.connection),
          (s.perform operation).2.draft⟩) := by
  rw [perform_eq, perform_eq]
  show (((s.draft.plan s.dialect operation).run s.backend.recorded (s.connection, record)).1,
    (⟨s.backend.recorded, ((s.draft.plan s.dialect operation).run s.backend.recorded
      (s.connection, record)).2, s.draft.after operation⟩ : Session _)) = _
  rw [Plan.run_recorded]

/-- The exchanges that the plans of a run take, one plan after the other. -/
def planned (s : Session σ) : List Operation → List Exchange
  | [] => []
  | operation :: rest =>
      (s.draft.plan s.dialect operation).exchanges s.backend s.connection ++
        (s.perform operation).2.planned rest

/-- **Recording changes nothing**, and the record goes on from where it stood. -/
theorem performAll_recorded (s : Session σ) (record : List Exchange)
    (operations : List Operation) :
    (⟨s.backend.recorded, (s.connection, record), s.draft⟩ : Session _).performAll operations =
      ((s.performAll operations).1,
        ⟨s.backend.recorded, ((s.performAll operations).2.connection,
          record ++ s.planned operations), (s.performAll operations).2.draft⟩) := by
  induction operations generalizing s record with
  | nil => simp [performAll, planned]
  | cons operation rest ih =>
    -- The hypothesis is about the backend behind the operation, which is the one before it.
    have hrest := ih (s.perform operation).2
      (record ++ (s.draft.plan s.dialect operation).exchanges s.backend s.connection)
    rw [backend_perform] at hrest
    rw [performAll_cons, perform_recorded, performAll_cons, planned]
    dsimp only
    rw [hrest, List.append_assoc]

theorem exchanges_eq_planned (s : Session σ) (operations : List Operation) :
    s.exchanges operations = s.planned operations := by
  rw [exchanges, recorded, performAll_recorded, List.nil_append]

@[simp] theorem exchanges_nil (s : Session σ) : s.exchanges [] = [] := rfl

/-- The exchanges of a run begin with those of its first operation. -/
theorem exchanges_cons (s : Session σ) (operation : Operation) (rest : List Operation) :
    s.exchanges (operation :: rest) =
      (s.draft.plan s.dialect operation).exchanges s.backend s.connection ++
        (s.perform operation).2.exchanges rest := by
  rw [exchanges_eq_planned, exchanges_eq_planned, planned]

theorem exchanges_singleton (s : Session σ) (operation : Operation) :
    s.exchanges [operation] =
      (s.draft.plan s.dialect operation).exchanges s.backend s.connection := by
  rw [exchanges_cons, exchanges_nil, List.append_nil]

end Session

end SqlBuilder
