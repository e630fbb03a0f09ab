import SqlBuilder.Connection.Scripted
import SqlBuilder.Proofs.ConnectorOpening
import SqlBuilder.Proofs.SharedTurns
import SqlBuilder.Proofs.StatementCalls

/-!
# Failures of the driver and their statements

A connection reports a failure of its driver without the statement, and whoever sent the statement is
to add its text.  An outcome in which that was done, or that is no failure of the driver, is
**attributed**.  Every plan that sends a statement attributes what comes of it
(`Plan.Attributes`), a missing id included, which is noticed only behind the call.

Transaction control is a call like any other, but nothing is added to what comes of it.  So a bare
failure of the driver comes out of a run exactly where a connection answers transaction control with
one (`database_mem_performAll_iff`).  A connector never does: its own statements `BEGIN`, `COMMIT`
and `ROLLBACK` are added to their failures before it replies.
-/
namespace SqlBuilder

variable {α β σ κ : Type}

/-! ## Attributed outcomes -/

/-- An outcome that is no failure of the driver, or names the statement that failed. -/
def Attributed (outcome : Except Error α) : Prop := ∀ cause, outcome ≠ .error (.database cause)

theorem attributed_withSql (sql : String) (outcome : Except Error α) :
    Attributed (outcome.mapError (Error.withSql sql)) := by
  intro cause h
  cases outcome with
  | ok a => cases h
  | error e =>
    cases e with
    | database other => cases h
    | _ => cases h

theorem Attributed.bind {outcome : Except Error α} (h : Attributed outcome)
    {next : α → Except Error β} (hnext : ∀ a, Attributed (next a)) :
    Attributed (outcome.bind next) := by
  cases outcome with
  | ok a => exact hnext a
  | error e =>
    intro cause hcause
    exact h cause (congrArg Except.error (Except.error.inj hcause))

theorem Attributed.map {outcome : Except Error α} (h : Attributed outcome) (f : α → β) :
    Attributed (outcome.map f) := by
  rw [except_map_eq_bind]
  exact h.bind fun _ => nofun

/-- A draft is refused before there is a statement that could fail. -/
theorem Draft.attributed_prepare (d : Draft) (dialect : Dialect) (verb : Verb) :
    Attributed (d.prepare dialect verb) := by
  have hcheck : Attributed (d.check verb) := by
    unfold check
    split
    · exact nofun
    · cases verb with
      | select | delete => exact nofun
      | insert | insertReturningId | update =>
        dsimp only
        split <;> exact nofun
  refine hcheck.bind fun _ => ?_
  unfold compile
  split <;> exact nofun

theorem attributed_decodeRows (decode : Json → Except DecodeError α) (rows : List Row) :
    Attributed (decodeRows decode rows) := by
  intro cause h
  unfold decodeRows at h
  cases hdecoded : rows.mapM fun row => decode row.toJson with
  | ok items =>
    rw [hdecoded] at h
    cases h
  | error e =>
    rw [hdecoded] at h
    cases h

/-! ## Calls and their statements -/

namespace Call

/-- The text of the statement that a call runs.  Transactions are controlled by statements too. -/
def sql : Call → String
  | .execute sql _ | .fetchAll sql _ => sql
  | .begin => "BEGIN"
  | .commit => "COMMIT"
  | .rollback => "ROLLBACK"

/-- Whether a call controls a transaction. -/
def isControl : Call → Bool
  | .execute _ _ | .fetchAll _ _ => false
  | .begin | .commit | .rollback => true

end Call

/-- The call that an operation of transaction control is. -/
def Operation.control? : Operation → Option Call
  | .begin => some .begin
  | .commit => some .commit
  | .rollback => some .rollback
  | _ => none

theorem Operation.isControl_of_control? {operation : Operation} {call : Call}
    (h : operation.control? = some call) : call.isControl = true := by
  cases operation with
  | begin | commit | rollback =>
    cases h
    rfl
  | _ => cases h

/-- A plan whose outcome is attributed whatever the reply, and to the statement of its call where the
reply is a failure of the driver. -/
inductive Plan.Attributes : Plan α → Prop
  | settled {outcome : Except Error α} (h : Attributed outcome) : Attributes (.settled outcome)
  | ask {call : Call} {conclude : Except Error call.Reply → Except Error α}
      (hcall : call.isControl = false) (h : ∀ reply, Attributed (conclude reply))
      (hfailed : ∀ cause,
        conclude (.error (.database cause)) = .error (.queryExecution call.sql cause)) :
      Attributes (.ask call conclude)

theorem Plan.Attributes.andThen {plan : Plan α} (h : plan.Attributes) {next : α → Except Error β}
    (hnext : ∀ a, Attributed (next a)) : (plan.andThen next).Attributes := by
  cases h with
  | settled h => exact .settled (h.bind hnext)
  | ask hcall h hfailed =>
    refine .ask hcall (fun reply => (h reply).bind hnext) fun cause => ?_
    rw [hfailed]
    rfl

theorem Plan.attributes_ofExcept {outcome : Except Error β} (h : Attributed outcome)
    {plan : β → Plan α} (hplan : ∀ b, (plan b).Attributes) :
    (Plan.ofExcept outcome plan).Attributes := by
  cases outcome with
  | ok b => exact hplan b
  | error e =>
    refine .settled fun cause hcause => ?_
    exact h cause (congrArg Except.error (Except.error.inj hcause))

namespace Prepared

theorem rows_attributes (p : Prepared) : p.rows.Attributes :=
  .ask rfl (attributed_withSql p.sql) fun _ => rfl

theorem newId_attributes (p : Prepared) : p.newId.Attributes :=
  .ask rfl (fun reply => attributed_withSql p.sql (reply.bind returnedId)) fun _ => rfl

theorem affected_attributes (p : Prepared) : p.affected.Attributes :=
  .ask rfl (attributed_withSql p.sql) fun _ => rfl

theorem execution_attributes (p : Prepared) : p.execution.Attributes := by
  unfold execution
  cases p.verb with
  | select => exact p.rows_attributes.andThen fun _ => nofun
  | insertReturningId => exact p.newId_attributes.andThen fun _ => nofun
  | insert | update | delete => exact p.affected_attributes.andThen fun _ => nofun

end Prepared

namespace Draft

/-- **Every operation but transaction control attributes its failures.** -/
theorem plan_attributes (d : Draft) (dialect : Dialect) {operation : Operation}
    (h : operation.control? = none) : (d.plan dialect operation).Attributes := by
  have hflag : ∀ p : Prepared,
      (p.affected.andThen fun _ => (.ok true : Except Error Bool)).Attributes :=
    fun p => p.affected_attributes.andThen fun _ => nofun
  cases operation with
  | edit e => exact .settled nofun
  | preview verb => exact .settled ((d.attributed_prepare dialect verb).map _)
  | get =>
    exact (Plan.attributes_ofExcept (d.attributed_prepare _ _)
      Prepared.rows_attributes).andThen fun _ => nofun
  | getAs decode =>
    exact (Plan.attributes_ofExcept (d.attributed_prepare _ _)
      Prepared.rows_attributes).andThen fun rows => (attributed_decodeRows decode rows).map _
  | insertReturningId fields =>
    exact (Plan.attributes_ofExcept (attributed_prepare _ _ _)
      Prepared.newId_attributes).andThen fun _ => nofun
  | insert | update | delete =>
    exact (Plan.attributes_ofExcept (attributed_prepare _ _ _) hflag).andThen fun _ => nofun
  | execute p => exact p.execution_attributes.andThen fun _ => nofun
  | begin | commit | rollback => cases h

/-- Transaction control hands on whatever the connection replies. -/
theorem plan_of_control (d : Draft) (dialect : Dialect) {operation : Operation} {call : Call}
    (h : operation.control? = some call) :
    d.plan dialect operation = .ask call fun reply => reply.map fun _ => .done := by
  cases operation with
  | begin | commit | rollback =>
    cases h
    rfl
  | _ => cases h

end Draft

/-! ## Operations and runs -/

namespace Session

/-- What the replies of a run are: answers of the connection in some state. -/
theorem exists_answer_of_mem_exchanges {s : Session σ} {operations : List Operation} {x : Exchange}
    (h : x ∈ s.exchanges operations) : ∃ state, x.reply = (s.backend.answer x.call state).1 := by
  induction operations generalizing s with
  | nil => exact absurd h List.not_mem_nil
  | cons operation rest ih =>
    rw [exchanges_cons] at h
    rcases List.mem_append.mp h with h | h
    · cases hplan : s.draft.plan s.dialect operation with
      | settled outcome =>
        rw [hplan] at h
        exact absurd h List.not_mem_nil
      | ask call conclude =>
        rw [hplan] at h
        obtain rfl := List.mem_singleton.mp h
        exact ⟨s.connection, rfl⟩
    · have hrest := ih h
      rwa [backend_perform] at hrest

/-- What comes of an operation that attributes its failures. -/
theorem attributed_perform (s : Session σ) {operation : Operation}
    (h : operation.control? = none) :
    Attributed (s.perform operation).1 ∧
      ∀ x ∈ s.exchanges [operation], x.call.isControl = false ∧
        ∀ cause, x.reply = .error (.database cause) →
          (s.perform operation).1 = .error (.queryExecution x.call.sql cause) := by
  have hplan := s.draft.plan_attributes s.dialect h
  rw [exchanges_singleton, perform_eq]
  generalize s.draft.plan s.dialect operation = plan at hplan
  cases hplan with
  | settled h => exact ⟨h, fun x hx => absurd hx List.not_mem_nil⟩
  | @ask call conclude hcall h hfailed =>
    refine ⟨h _, fun x hx => ?_⟩
    obtain rfl := List.mem_singleton.mp hx
    refine ⟨hcall, fun cause hcause => ?_⟩
    have hreply : (s.backend.answer call s.connection).1 = .error (.database cause) := hcause
    show conclude (s.backend.answer call s.connection).1 = _
    rw [hreply, hfailed]

/-- What comes of transaction control. -/
theorem perform_of_control (s : Session σ) {operation : Operation} {call : Call}
    (h : operation.control? = some call) :
    s.exchanges [operation] = [⟨call, (s.backend.answer call s.connection).1⟩] ∧
      (s.perform operation).1 =
        (s.backend.answer call s.connection).1.map fun _ => Outcome.done := by
  rw [exchanges_singleton, perform_eq, s.draft.plan_of_control s.dialect h]
  exact ⟨rfl, rfl⟩

/-- An operation comes to a bare failure of the driver exactly if it controls a transaction and is
answered with one. -/
theorem perform_eq_database_iff (s : Session σ) (operation : Operation) (cause : DriverError) :
    (s.perform operation).1 = .error (.database cause) ↔
      ∃ x ∈ s.exchanges [operation],
        x.call.isControl = true ∧ x.reply = .error (.database cause) := by
  cases hcontrol : operation.control? with
  | none =>
    obtain ⟨hattributed, hsent⟩ := s.attributed_perform hcontrol
    constructor
    · intro h
      exact absurd h (hattributed cause)
    · rintro ⟨x, hx, hcall, -⟩
      rw [(hsent x hx).1] at hcall
      cases hcall
  | some call =>
    obtain ⟨hexchanges, houtcome⟩ := s.perform_of_control hcontrol
    rw [hexchanges, houtcome]
    cases hreply : (s.backend.answer call s.connection).1 with
    | ok reply =>
      constructor
      · nofun
      · rintro ⟨x, hx, -, hx'⟩
        obtain rfl := List.mem_singleton.mp hx
        cases hx'
    | error e =>
      constructor
      · intro h
        obtain rfl := Except.error.inj h
        exact ⟨_, List.mem_singleton_self _, Operation.isControl_of_control? hcontrol, rfl⟩
      · rintro ⟨x, hx, -, hx'⟩
        obtain rfl := List.mem_singleton.mp hx
        rw [show e = .database cause from Except.error.inj hx']
        rfl

/-- **A bare failure in a run** is one with which transaction control was answered. -/
theorem database_mem_performAll_iff (s : Session σ) (operations : List Operation)
    (cause : DriverError) :
    .error (.database cause) ∈ (s.performAll operations).1 ↔
      ∃ x ∈ s.exchanges operations,
        x.call.isControl = true ∧ x.reply = .error (.database cause) := by
  induction operations generalizing s with
  | nil =>
    rw [exchanges_nil]
    constructor
    · intro h
      exact absurd h List.not_mem_nil
    · rintro ⟨x, hx, -⟩
      exact absurd hx List.not_mem_nil
  | cons operation rest ih =>
    have hfirst := s.perform_eq_database_iff operation cause
    rw [exchanges_singleton] at hfirst
    rw [performAll_cons, exchanges_cons, List.mem_cons, eq_comm, hfirst, ih]
    constructor
    · rintro (⟨x, hx, h⟩ | ⟨x, hx, h⟩)
      · exact ⟨x, List.mem_append_left _ hx, h⟩
      · exact ⟨x, List.mem_append_right _ hx, h⟩
    · rintro ⟨x, hx, h⟩
      rcases List.mem_append.mp hx with hx | hx
      · exact .inl ⟨x, hx, h⟩
      · exact .inr ⟨x, hx, h⟩

end Session

/-! ## Connectors -/

namespace Connector

theorem attributed_control (driver : Driver κ) (c : Connector κ) (sql : String) :
    Attributed (c.control driver sql).1 := by
  unfold control withHandle
  cases hlive : c.live driver with
  | error e =>
    obtain ⟨problem, cause, rfl⟩ := exists_problem_of_live hlive
    exact nofun
  | ok handle =>
    have hexecuted : Attributed ((driver.execute sql [] handle).1.mapError fun cause =>
        (Error.database cause).withSql sql) := by
      intro cause h
      cases houtcome : (driver.execute sql [] handle).1 with
      | ok count =>
        rw [houtcome] at h
        cases h
      | error other =>
        rw [houtcome] at h
        cases h
    exact hexecuted.map _

theorem attributed_answer (driver : Driver κ) (dialect : Dialect) (c : Connector κ) {call : Call}
    (h : call.isControl = true) : Attributed ((backend driver dialect).answer call c).1 := by
  cases call with
  | begin => exact attributed_control driver c "BEGIN"
  | commit => exact attributed_control driver c "COMMIT"
  | rollback => exact attributed_control driver c "ROLLBACK"
  | execute | fetchAll => cases h

/-- A connector reports a failed statement of transaction control with its text. -/
theorem answer_of_failed_control {driver : Driver κ} {c : Connector κ} {handle : κ}
    (hlive : c.live driver = .ok handle) (dialect : Dialect) {call : Call}
    (hcall : call.isControl = true) {cause : DriverError}
    (hfailed : (driver.execute call.sql [] handle).1 = .error cause) :
    ((backend driver dialect).answer call c).1 = .error (.queryExecution call.sql cause) := by
  have hcontrol : ∀ sql, (driver.execute sql [] handle).1 = .error cause →
      (c.control driver sql).1 = .error (.queryExecution sql cause) := by
    intro sql h
    unfold control withHandle
    rw [hlive]
    show ((driver.execute sql [] handle).1.mapError _).map _ = _
    rw [h]
    rfl
  cases call with
  | begin => exact hcontrol "BEGIN" hfailed
  | commit => exact hcontrol "COMMIT" hfailed
  | rollback => exact hcontrol "ROLLBACK" hfailed
  | execute | fetchAll => cases hcall

end Connector

/-! ## What comes out -/

/-- **Only transaction control hands on a bare failure of the driver.**  In a run of any session, a
failure without its statement comes out exactly where the connection answered transaction control
with it.  Every call that the driver fails at decides the outcome of its operation: for a statement
it is the failure with the statement's text, and for transaction control the failure as it is.  A
shared session hands on the replies to transaction control as well.  Where the connection is a
connector, with whatever driver, no run ends in a bare failure, since the statements that control
transactions are named by the connector itself. -/
theorem driver_failures_of_runs :
    (∀ (s : Session σ) (operations : List Operation) (cause : DriverError),
      .error (.database cause) ∈ (s.performAll operations).1 ↔
        ∃ x ∈ s.exchanges operations,
          x.call.isControl = true ∧ x.reply = .error (.database cause)) ∧
    (∀ (s : Session σ) (operation : Operation), ∀ x ∈ s.exchanges [operation], ∀ cause,
      x.reply = .error (.database cause) →
        (s.perform operation).1 = .error
          (if x.call.isControl then .database cause else .queryExecution x.call.sql cause)) ∧
    (∀ shared : Shared σ,
      shared.begin.1 = (shared.session.backend.answer .begin shared.session.connection).1 ∧
      shared.commit.1 = (shared.session.backend.answer .commit shared.session.connection).1 ∧
      shared.rollback.1 = (shared.session.backend.answer .rollback shared.session.connection).1) ∧
    ∀ (driver : Driver κ) (dialect : Dialect) (c : Connector κ) (draft : Draft),
      (∀ operations,
        ∀ outcome ∈ ((⟨Connector.backend driver dialect, c, draft⟩ : Session _).performAll
          operations).1, Attributed outcome) ∧
      ∀ (handle : κ) (call : Call) (cause : DriverError), c.live driver = .ok handle →
        call.isControl = true → (driver.execute call.sql [] handle).1 = .error cause →
        ((Connector.backend driver dialect).answer call c).1 =
          .error (.queryExecution call.sql cause) := by
  refine ⟨Session.database_mem_performAll_iff, fun s operation x hx cause hcause => ?_,
    fun shared => ?_, fun driver dialect c draft => ⟨fun operations outcome houtcome => ?_, ?_⟩⟩
  · cases hcontrol : operation.control? with
    | none =>
      obtain ⟨hcall, hfailed⟩ := (s.attributed_perform hcontrol).2 x hx
      rw [hcall, if_neg Bool.false_ne_true]
      exact hfailed cause hcause
    | some call =>
      obtain ⟨hexchanges, -⟩ := s.perform_of_control hcontrol
      have hcall : x.call.isControl = true := by
        rw [hexchanges] at hx
        rw [List.mem_singleton.mp hx]
        exact Operation.isControl_of_control? hcontrol
      rw [if_pos hcall]
      exact (s.perform_eq_database_iff operation cause).mpr ⟨x, hx, hcall, hcause⟩
  · have hconnection : shared.query.connection = shared.session.connection := by
      unfold Shared.query
      split <;> rfl
    rw [← Shared.backend_query shared, ← hconnection]
    exact ⟨rfl, rfl, rfl⟩
  · intro cause hcause
    subst hcause
    obtain ⟨x, hx, hcall, hreply⟩ :=
      (Session.database_mem_performAll_iff _ operations cause).mp houtcome
    obtain ⟨state, hanswer⟩ := Session.exists_answer_of_mem_exchanges hx
    exact Connector.attributed_answer driver dialect state hcall cause (hanswer.symm.trans hreply)
  · intro handle call cause hlive hcall hfailed
    exact Connector.answer_of_failed_control hlive dialect hcall hfailed

/-- A connection by the rules, whose driver fails at the beginning of a transaction: the failure comes
out of the session without its statement. -/
theorem not_all_failures_attributed :
    ¬ ∀ (σ : Type) (backend : Backend σ) (connection : σ) (operations : List Operation),
      let s := Session.new backend connection
      (∀ x ∈ s.exchanges operations, ∀ sql cause, x.reply ≠ .error (.queryExecution sql cause)) →
        ∀ outcome ∈ (s.performAll operations).1, Attributed outcome := by
  intro h
  have hbegin := h Scripted (Scripted.backend .postgres)
    { Scripted.initial with failure := some (.database (.protocol "gone away")) } [.begin]
  refine hbegin (fun x hx sql cause hreply => ?_) _ (List.mem_singleton_self _)
    (.protocol "gone away") rfl
  obtain rfl := List.mem_singleton.mp hx
  cases hreply

end SqlBuilder
