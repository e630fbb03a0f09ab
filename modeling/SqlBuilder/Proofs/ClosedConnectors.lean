import SqlBuilder.Proofs.DriverFailures

/-!
# Connectors that stay closed

Where the driver refuses every location, a connector never opens, and every call to it is answered
without a change (`Connector.answer_of_refuses`).  What a call keeps, a run keeps
(`Session.connection_performAll`), so the connector is the same at every point of a run.

Errors come up in an order that is spread over all layers: the draft is checked and written, then the
parameters are looked up, then the configuration is made a URL, and then the driver is asked.  Behind
one another they make one fixed order (`Session.errors_of_closed_connector`).  Each of these errors is
found before a driver has seen the statement, so none of them is a failure of the driver at one.
-/
namespace SqlBuilder

variable {κ : Type}

/-! ## Errors that are found early -/

/-- An error that is found before the driver has seen a statement. -/
inductive Error.IsEarly : Error → Prop
  | connection (problem : ConnectionProblem) (cause : Option DriverError) :
      IsEarly (.connection problem cause)
  | invalidQuery (problem : QueryProblem) : IsEarly (.invalidQuery problem)
  | unsupported (verb : Verb) (dialect : Dialect) : IsEarly (.unsupported verb dialect)

theorem Draft.isEarly_of_refusal? {d : Draft} {dialect : Dialect} {fields : Fields} {verb : Verb}
    {e : Error} (h : d.refusal? dialect fields verb = some e) : e.IsEarly := by
  unfold refusal? at h
  split at h
  · cases h
    exact .invalidQuery _
  · split at h
    · cases h
      exact .invalidQuery _
    · split at h
      · cases h
        exact .unsupported _ _
      · cases h

theorem Config.isEarly_callError (reason : Location → DriverError) (c : Config) (call : Call) :
    (c.callError reason call).IsEarly := by
  unfold callError
  split
  · exact .invalidQuery _
  · obtain ⟨problem, cause, h⟩ := c.exists_problem_of_opening reason
    rw [h]
    exact .connection _ _

theorem Error.IsEarly.ne_database {e : Error} (h : e.IsEarly) (cause : DriverError) :
    e ≠ .database cause := by
  cases h <;> nofun

/-! ## Sessions over a closed connector -/

namespace Session

section Closed

variable {driver : Driver κ} {reason : Location → DriverError} (hdriver : driver.Refuses reason)
  {c : Connector κ} (hclosed : c.handle = none) {s : Session (Connector κ)} {dialect : Dialect}
  (hbackend : s.backend = Connector.backend driver dialect) (hconnection : s.connection = c)
include hdriver hclosed hbackend hconnection

theorem answer_of_closed (call : Call) :
    (s.backend.answer call s.connection).1 = .error (c.config.callError reason call) := by
  rw [hbackend, hconnection, Connector.answer_of_refuses hdriver hclosed]

/-- A statement prepared elsewhere comes back with what is in the way of its call. -/
theorem perform_execute_of_closed (p : Prepared) :
    (s.perform (.execute p)).1 = .error (c.config.callError reason p.call) := by
  have hsends : (s.draft.plan s.dialect (.execute p)).Sends p := p.execution_sends.andThen _
  exact (s.exchanges_of_sends hsends).2.other _
    (c.config.isEarly_callError reason p.call).ne_database
    (answer_of_closed hdriver hclosed hbackend hconnection p.call)

theorem perform_control_of_closed {operation : Operation} {call : Call}
    (h : operation.control? = some call) :
    (s.perform operation).1 = .error (c.config.openingError reason) := by
  have hanswer := answer_of_closed hdriver hclosed hbackend hconnection call
  rw [(s.perform_of_control h).2, hanswer]
  cases operation with
  | begin | commit | rollback =>
    cases h
    rfl
  | _ => cases h

/-- A terminal operation is refused for the first reason in the draft, and otherwise comes back with
what is in the way of its call. -/
theorem perform_terminal_of_closed (hs : s.Reachable) {operation : Operation} {verb : Verb}
    (hverb : operation.verb? = some verb) :
    let d := s.draft.withFields operation.fields verb
    (s.perform operation).1 = .error ((s.draft.refusal? s.dialect operation.fields verb).getD
      (c.config.callError reason (Prepared.mk verb (d.sql verb) d.bindings).call)) := by
  intro d
  rcases hs.refused_or_sent hverb with ⟨e, hrefusal, -, houtcome⟩ | ⟨hrefusal, p, hcompile, -, hsent⟩
  · rw [hrefusal]
    exact houtcome
  · rw [hrefusal]
    obtain rfl := Draft.eq_of_compile hcompile
    exact hsent.other _ (c.config.isEarly_callError reason _).ne_database
      (answer_of_closed hdriver hclosed hbackend hconnection _)

/-- Whatever is asked of such a session, its errors are found early. -/
theorem isEarly_perform_of_closed (hs : s.Reachable) {operation : Operation} {e : Error}
    (h : (s.perform operation).1 = .error e) : e.IsEarly := by
  cases hverb : operation.verb? with
  | some verb =>
    rw [perform_terminal_of_closed hdriver hclosed hbackend hconnection hs hverb] at h
    rw [← Except.error.inj h]
    cases hrefusal : s.draft.refusal? s.dialect operation.fields verb with
    | some refused => exact Draft.isEarly_of_refusal? hrefusal
    | none => exact Config.isEarly_callError reason c.config _
  | none =>
    -- Of the operations without a call of their own, only previews can fail.
    cases operation with
    | edit edited => cases h
    | preview verb =>
      have hprepare := hs.consistent.prepare_withFields s.dialect [] verb
      rw [Draft.withFields_nil] at hprepare
      replace h : (s.draft.prepare s.dialect verb).map Outcome.prepared = .error e := h
      cases hrefusal : s.draft.refusal? s.dialect [] verb with
      | some refused =>
        rw [hprepare, hrefusal] at h
        rw [← Except.error.inj h]
        exact Draft.isEarly_of_refusal? hrefusal
      | none =>
        rw [hprepare, hrefusal] at h
        cases h
    | execute p =>
      rw [perform_execute_of_closed hdriver hclosed hbackend hconnection] at h
      rw [← Except.error.inj h]
      exact Config.isEarly_callError reason c.config _
    | begin | commit | rollback =>
      rw [perform_control_of_closed hdriver hclosed hbackend hconnection rfl] at h
      rw [← Except.error.inj h]
      exact Config.isEarly_callError reason c.config .begin
    | _ => cases hverb

end Closed

/-- **A connector that cannot open stays closed, and its errors keep their order.**  Where the driver
refuses every location, the connector is at every point of a run what it was in the beginning.  A
terminal operation fails with the first that applies of: no table, no fields where some are needed, a
dialect without returned ids where one is wanted, a parameter of the text that has no value, and the
error of opening.  A statement prepared elsewhere begins with the parameters, and transaction control
with the opening.  The error of opening is that of the URL, if there is none, or else it names the data
source and has the driver's refusal as its cause.  No error of such a session is a failure of the
driver at a statement. -/
theorem errors_of_closed_connector {driver : Driver κ} {reason : Location → DriverError}
    (hdriver : driver.Refuses reason) {config : Config} {c : Connector κ}
    (hnew : Connector.new config = .ok c) (history : List Operation) :
    let s := ((c.session driver).performAll history).2
    (s.connection = c ∧ c.isConnected = false ∧ c.config = config ∧
      config.dialect = .ok c.dialect ∧ s.dialect = c.dialect) ∧
    (∀ operation verb, operation.verb? = some verb →
      let d := s.draft.withFields operation.fields verb
      (s.perform operation).1 = .error ((s.draft.refusal? c.dialect operation.fields verb).getD
        (config.callError reason (Prepared.mk verb (d.sql verb) d.bindings).call))) ∧
    (∀ p : Prepared, (s.perform (.execute p)).1 = .error (config.callError reason p.call)) ∧
    (∀ operation call, operation.control? = some call →
      (s.perform operation).1 = .error (config.openingError reason)) ∧
    (∀ e, config.url = .error e →
      config.openingError reason = e ∧ ∃ problem, e = .connection problem none) ∧
    (∀ text, config.url = .ok text →
      (config.openingError reason).message =
        "Connection error: could not connect to " ++ config.dsn ∧
      ∃ cause, config.openingError reason = .connection (.unreachable config.dsn) (some cause)) ∧
    ∀ operation e, (s.perform operation).1 = .error e → e.IsEarly := by
  intro s
  obtain ⟨hdialect, rfl, hclosed⟩ := Connector.new_eq_ok hnew
  have hbackend : s.backend = Connector.backend driver c.dialect := backend_performAll _ history
  have hconnection : s.connection = c := by
    refine connection_performAll (c.session driver) (· = c) (fun call state hstate => ?_) rfl history
    rw [hstate]
    exact congrArg Prod.snd (Connector.answer_of_refuses hdriver hclosed c.dialect call)
  have hsdialect : s.dialect = c.dialect := congrArg Backend.dialect hbackend
  have hs : s.Reachable := (Reachable.new _ _).performAll history
  have hterminal := fun (operation : Operation) verb (hverb : operation.verb? = some verb) =>
    perform_terminal_of_closed hdriver hclosed hbackend hconnection hs hverb
  rw [hsdialect] at hterminal
  refine ⟨⟨hconnection, ?_, rfl, hdialect, hsdialect⟩, hterminal,
    perform_execute_of_closed hdriver hclosed hbackend hconnection,
    fun operation call h => perform_control_of_closed hdriver hclosed hbackend hconnection h,
    fun e hurl => ?_, fun text hurl => ?_,
    fun operation e h => isEarly_perform_of_closed hdriver hclosed hbackend hconnection hs h⟩
  · rw [Connector.isConnected, hclosed]
    rfl
  · rw [Config.url_eq_map] at hurl
    cases hlocation : c.config.location with
    | ok location =>
      rw [hlocation] at hurl
      cases hurl
    | error other =>
      rw [hlocation] at hurl
      obtain rfl := Except.error.inj hurl
      exact ⟨Config.openingError_of_error hlocation reason,
        Config.exists_problem_of_location hlocation⟩
  · rw [Config.url_eq_map] at hurl
    cases hlocation : c.config.location with
    | error other =>
      rw [hlocation] at hurl
      cases hurl
    | ok location =>
      rw [Config.openingError_of_location hlocation]
      exact ⟨rfl, _, rfl⟩

theorem errors_without_driver :
    let config := { Config.of "mariadb" "shop" with host := some "db" }
    let c : Connector Empty := ⟨config, .mysql, none⟩
    let unreachable : Error :=
      .connection (.unreachable "mariadb:host=db;port=3306;dbname=shop;") (some (.noDriver "mysql"))
    let s := ((c.session Driver.absent).performAll [.begin, .edit (.table "users")]).2
    s.connection = c ∧
      (s.perform .begin).1 = .error unreachable ∧ (s.perform .get).1 = .error unreachable ∧
      (s.perform (.insert [])).1 = .error (.invalidQuery (.noFields "INSERT")) ∧
      (s.perform (.insertReturningId [("name", .null)])).1 =
        .error (.unsupported .insertReturningId .mysql) ∧
      (s.perform (.execute ⟨.select, "SELECT :id", .empty⟩)).1 =
        .error (.invalidQuery (.unbound ":id")) := by
  intro config c unreachable s
  have hnew : Connector.new config = .ok c := by
    have hchecked : (config.validate.bind fun _ => config.dialect) = .ok .mysql := by decide
    rw [Connector.new_eq_map, hchecked]
    rfl
  obtain ⟨⟨hconnection, -⟩, hterminal, hexecute, hcontrol, -⟩ :=
    errors_of_closed_connector Driver.refuses_absent hnew [.begin, .edit (.table "users")]
  refine ⟨hconnection, (hcontrol .begin _ rfl).trans (congrArg _ ?_),
    (hterminal .get _ rfl).trans (congrArg _ ?_), hterminal (.insert []) _ rfl,
    hterminal (.insertReturningId _) _ rfl, (hexecute _).trans (congrArg _ ?_)⟩
  · decide
  · decide +kernel
  · decide +kernel

end Session

end SqlBuilder
