import SqlBuilder.Connection.Connector
import SqlBuilder.Connection.Session
import SqlBuilder.Proofs.PositionalTokens

/-!
# Opening a connector

A connector opens its connection when a call needs it, and two things can be in the way: the
configuration points nowhere, or the driver refuses where it points.  Both are errors of the
connection, and `Config.openingError` is the one that counts where a driver refuses everything.

A statement with a parameter that has no value does not get that far.  So a connector that is closed
and cannot be opened answers each call with the first of these obstacles, and is afterwards as it was
before (`answer_of_refuses`).
-/
namespace SqlBuilder

variable {κ : Type}

/-! ## Where a configuration points -/

namespace Config

variable {c : Config} {dialect : Dialect}

/-- The URL of a server's host by itself.  A URL without a host can have no port. -/
def hostUrl (c : Config) (dialect : Dialect) : Except Error Url :=
  match Url.ofAuthority dialect.name c.hostText.toList with
  | .ok url =>
      if url.host.isEmpty then .error (connectionError (.invalidPart "port")) else .ok url
  | .error _ => .error (connectionError (.invalidPart "host"))

/-- The URL of a host with every other part of a configuration in its place. -/
def completed (c : Config) (dialect : Dialect) (host : Url) : Url :=
  let url := host.withPort ((c.port <|> dialect.defaultPort).map UInt16.toNat)
  let url := match c.user with
    | some user => url.withUser user
    | none => url
  let url := match c.password with
    | some password => url.withPassword password
    | none => url
  (url.withPath c.dbname).addOptions c.options.entries

/-- Only the host can be the reason for which a server has no location. -/
theorem serverLocation_eq_map (c : Config) (dialect : Dialect) :
    c.serverLocation dialect =
      (c.hostUrl dialect).map fun host => .server (c.completed dialect host) := by
  unfold serverLocation hostUrl
  cases Url.ofAuthority dialect.name c.hostText.toList with
  | error reason => rfl
  | ok host =>
    by_cases hempty : host.host.isEmpty = true
    · simp only [pure_bind, if_pos hempty]
      rfl
    · simp only [pure_bind, if_neg hempty]
      rfl

theorem location_of_file (h : c.dialect = .ok .sqlite) : c.location = .ok c.fileLocation := by
  rw [location, h]
  rfl

theorem location_of_unknown {e : Error} (h : c.dialect = .error e) : c.location = .error e := by
  rw [location, h]
  rfl

theorem location_of_server (h : c.dialect = .ok dialect) (hserver : dialect ≠ .sqlite) :
    c.location = c.serverLocation dialect := by
  have hbind : ∀ next : Dialect → Except Error Location,
      (Except.ok dialect >>= next) = next dialect := fun _ => rfl
  rw [location, h, hbind]
  split
  · exact absurd rfl hserver
  · rfl

/-- A configuration without a location is an error of the connection, before any driver is asked. -/
theorem exists_problem_of_location {e : Error} (h : c.location = .error e) :
    ∃ problem, e = .connection problem none := by
  cases hdialect : c.dialect with
  | error other =>
    rw [location_of_unknown hdialect] at h
    obtain rfl := Except.error.inj h
    unfold Config.dialect at hdialect
    split at hdialect
    · cases hdialect
    · exact ⟨_, (Except.error.inj hdialect).symm⟩
  | ok dialect =>
    by_cases hserver : dialect = .sqlite
    · subst hserver
      rw [location_of_file hdialect] at h
      cases h
    · rw [location_of_server hdialect hserver, serverLocation_eq_map, hostUrl] at h
      cases hhost : Url.ofAuthority dialect.name c.hostText.toList with
      | error reason =>
        rw [hhost] at h
        exact ⟨_, (Except.error.inj h).symm⟩
      | ok host =>
        rw [hhost] at h
        by_cases hempty : host.host.isEmpty = true
        · simp only [hempty, if_true] at h
          exact ⟨_, (Except.error.inj h).symm⟩
        · simp only [hempty] at h
          cases h

/-- The URL fails with the location and only then. -/
theorem url_eq_map (c : Config) : c.url = c.location.map Location.render := by
  unfold url
  cases c.location <;> rfl

/-! ## Why a connection is not opened -/

/-- The error of opening a connection with a driver that refuses every location for some reason. -/
def openingError (reason : Location → DriverError) (c : Config) : Error :=
  match c.location with
  | .ok location => .connection (.unreachable c.dsn) (some (reason location))
  | .error e => e

theorem openingError_of_location {location : Location} (h : c.location = .ok location)
    (reason : Location → DriverError) :
    c.openingError reason = .connection (.unreachable c.dsn) (some (reason location)) := by
  unfold openingError
  rw [h]

theorem openingError_of_error {e : Error} (h : c.location = .error e)
    (reason : Location → DriverError) : c.openingError reason = e := by
  unfold openingError
  rw [h]

/-- Either way it is an error of the connection. -/
theorem exists_problem_of_opening (c : Config) (reason : Location → DriverError) :
    ∃ problem cause, c.openingError reason = .connection problem cause := by
  cases h : c.location with
  | ok location => exact ⟨_, _, openingError_of_location h reason⟩
  | error e =>
    obtain ⟨problem, rfl⟩ := exists_problem_of_location h
    exact ⟨problem, none, openingError_of_error h reason⟩

end Config

/-- The driver refuses every location, for a reason that the location may decide. -/
def Driver.Refuses (driver : Driver κ) (reason : Location → DriverError) : Prop :=
  ∀ location, driver.connect location = .error (reason location)

theorem Driver.refuses_absent : Driver.absent.Refuses Driver.refusal := fun _ => rfl

/-! ## Connectors that were just made -/

namespace Connector

theorem new_eq_map (config : Config) :
    (new config : Except Error (Connector κ)) =
      (config.validate.bind fun _ => config.dialect).map fun dialect => ⟨config, dialect, none⟩ := by
  unfold new
  cases config.validate with
  | error e => rfl
  | ok valid => cases config.dialect <;> rfl

theorem new_eq_ok {config : Config} {c : Connector κ} (h : new config = .ok c) :
    config.dialect = .ok c.dialect ∧ c.config = config ∧ c.handle = none := by
  rw [new_eq_map] at h
  cases hvalid : config.validate with
  | error e =>
    rw [hvalid] at h
    cases h
  | ok valid =>
    rw [hvalid] at h
    cases hdialect : config.dialect with
    | error e =>
      rw [hdialect] at h
      cases h
    | ok dialect =>
      rw [hdialect] at h
      cases h
      exact ⟨rfl, rfl, rfl⟩

/-- A session over a connector of which nothing has been asked yet. -/
def session (driver : Driver κ) (c : Connector κ) : Session (Connector κ) :=
  .new (backend driver c.dialect) c

end Connector

/-! ## Calls that need a connection -/

/-- The first parameter in the text of a call for which no value is bound. -/
def Call.unbound? : Call → Option String
  | .execute sql bindings | .fetchAll sql bindings =>
      Positional.unbound? bindings (Positional.tokens sql.toList)
  | .begin | .commit | .rollback => none

/-- The error of a call where no connection can be opened. -/
def Config.callError (reason : Location → DriverError) (c : Config) (call : Call) : Error :=
  match call.unbound? with
  | some parameter => .invalidQuery (.unbound parameter)
  | none => c.openingError reason

section Parameters

variable {dialect : Dialect} {bindings : Bindings} {sql : String}

theorem positional_of_unbound {parameter : String}
    (h : Positional.unbound? bindings (Positional.tokens sql.toList) = some parameter) :
    positional dialect bindings sql = .error (.invalidQuery (.unbound parameter)) := by
  rw [Positional.positional_eq_substitute, Positional.substitute, h]
  rfl

theorem exists_positional_of_bound
    (h : Positional.unbound? bindings (Positional.tokens sql.toList) = none) :
    ∃ statement, positional dialect bindings sql = .ok statement := by
  rw [Positional.positional_eq_substitute, Positional.substitute, h]
  exact ⟨_, rfl⟩

end Parameters

namespace Connector

variable {driver : Driver κ} {c : Connector κ}

theorem openNew_of_location {location : Location} (h : c.config.location = .ok location) :
    c.openNew driver = (driver.connect location).mapError fun cause =>
      .connection (.unreachable c.config.dsn) (some cause) := by
  have hbind : ∀ next : Location → Except Error κ, (Except.ok location >>= next) = next location :=
    fun _ => rfl
  rw [openNew, h, hbind]
  cases driver.connect location <;> rfl

theorem openNew_of_error {e : Error} (h : c.config.location = .error e) :
    c.openNew driver = .error e := by
  unfold openNew
  rw [h]
  rfl

/-- Opening fails with errors of the connection only. -/
theorem exists_problem_of_live {e : Error} (h : c.live driver = .error e) :
    ∃ problem cause, e = .connection problem cause := by
  unfold live at h
  cases hhandle : c.handle with
  | some handle =>
    rw [hhandle] at h
    cases h
  | none =>
    rw [hhandle] at h
    replace h : c.openNew driver = .error e := h
    cases hlocation : c.config.location with
    | error other =>
      obtain ⟨problem, rfl⟩ := Config.exists_problem_of_location hlocation
      rw [openNew_of_error hlocation] at h
      exact ⟨problem, none, (Except.error.inj h).symm⟩
    | ok location =>
      rw [openNew_of_location hlocation] at h
      cases hconnect : driver.connect location with
      | ok handle =>
        rw [hconnect] at h
        cases h
      | error cause =>
        rw [hconnect] at h
        exact ⟨_, _, (Except.error.inj h).symm⟩

section Refused

variable {reason : Location → DriverError} (hdriver : driver.Refuses reason)
  (hclosed : c.handle = none)
include hdriver hclosed

theorem live_of_refuses : c.live driver = .error (c.config.openingError reason) := by
  have hnew : c.live driver = c.openNew driver := by
    unfold live
    rw [hclosed]
  rw [hnew]
  cases hlocation : c.config.location with
  | error e => rw [openNew_of_error hlocation, Config.openingError_of_error hlocation]
  | ok location =>
    rw [openNew_of_location hlocation, Config.openingError_of_location hlocation, hdriver location]
    rfl

/-- What would be done with the connection is not done. -/
theorem withHandle_of_refuses {α : Type} (use : κ → Except Error α × κ) :
    c.withHandle driver use = (.error (c.config.openingError reason), c) := by
  rw [withHandle, live_of_refuses hdriver hclosed]

theorem control_of_refuses (sql : String) :
    c.control driver sql = (.error (c.config.openingError reason), c) :=
  withHandle_of_refuses hdriver hclosed _

/-- A statement whose parameters are looked up before the connection is used. -/
theorem sent_of_refuses {α : Type} {sql : String} {bindings : Bindings}
    {outcome : Except Error α × Connector κ}
    (hrefused : ∀ e, positional c.dialect bindings sql = .error e → outcome = (.error e, c))
    (hsent : ∀ statement, positional c.dialect bindings sql = .ok statement →
      ∃ use, outcome = c.withHandle driver use) :
    outcome = (.error (c.config.callError reason (.execute sql bindings)), c) := by
  unfold Config.callError Call.unbound?
  dsimp only
  cases hunbound : Positional.unbound? bindings (Positional.tokens sql.toList) with
  | some parameter => exact hrefused _ (positional_of_unbound hunbound)
  | none =>
    obtain ⟨statement, hstatement⟩ := exists_positional_of_bound hunbound
    obtain ⟨use, rfl⟩ := hsent statement hstatement
    exact withHandle_of_refuses hdriver hclosed use

theorem execute_of_refuses (sql : String) (bindings : Bindings) :
    c.execute driver sql bindings =
      (.error (c.config.callError reason (.execute sql bindings)), c) := by
  refine sent_of_refuses hdriver hclosed (fun e h => ?_) fun statement h => ?_
  · rw [execute, h]
  · rw [execute, h]
    exact ⟨_, rfl⟩

theorem fetchAll_of_refuses (sql : String) (bindings : Bindings) :
    c.fetchAll driver sql bindings =
      (.error (c.config.callError reason (.fetchAll sql bindings)), c) := by
  refine sent_of_refuses hdriver hclosed (fun e h => ?_) fun statement h => ?_
  · rw [fetchAll, h]
  · rw [fetchAll, h]
    exact ⟨_, rfl⟩

/-- **A call that needs a connection where none can be opened** is answered with the first obstacle,
and nothing of it remains. -/
theorem answer_of_refuses (dialect : Dialect) (call : Call) :
    (backend driver dialect).answer call c = (.error (c.config.callError reason call), c) := by
  cases call with
  | execute sql bindings => exact execute_of_refuses hdriver hclosed sql bindings
  | fetchAll sql bindings => exact fetchAll_of_refuses hdriver hclosed sql bindings
  | begin => exact control_of_refuses hdriver hclosed "BEGIN"
  | commit => exact control_of_refuses hdriver hclosed "COMMIT"
  | rollback => exact control_of_refuses hdriver hclosed "ROLLBACK"

end Refused

end Connector

end SqlBuilder
