import SqlBuilder.Description.Connector
import SqlBuilder.Proofs.ConnectorOpening
import SqlBuilder.Proofs.ValueIndependence

/-!
# Passwords stay concealed

The password of a configuration is needed in one place, the URL for the driver, and there it stands
in a part of its own.  So a location can be made without it, and it is put in at the end
(`Config.location_withPassword`): nothing that can go wrong on the way, and nothing else in the URL,
depends on it.

What is made of the location may still give it away.  Where the driver refuses every location for a
reason that is a matter of the scheme, it does not: two connectors that differ in their passwords then
answer every call alike and stay as they are, and what holds for one call holds for a run
(`Session.performAll_of_related`).
-/
namespace SqlBuilder

variable {κ : Type}

/-! ## Passwords in locations -/

theorem Url.addOptions_withPassword (url : Url) (password : String)
    (options : List (String × String)) :
    (url.withPassword password).addOptions options =
      (url.addOptions options).withPassword password := by
  unfold addOptions
  split <;> rfl

/-- The same location for another password.  A file has none. -/
def Location.withPassword (password : String) : Location → Location
  | .file text => .file text
  | .server url => .server (url.withPassword password)

namespace Config

def withPassword (c : Config) (password : String) : Config := { c with password := some password }

def withoutPassword (c : Config) : Config := { c with password := none }

variable (c : Config) (password : String)

theorem completed_withPassword (dialect : Dialect) (host : Url) :
    (c.withPassword password).completed dialect host =
      (c.withoutPassword.completed dialect host).withPassword password := by
  -- A path takes the place of a path, so only the options are to be exchanged with the password.
  unfold completed
  exact Url.addOptions_withPassword (Url.withPath _ c.dbname) password c.options.entries

theorem hostUrl_withPassword (dialect : Dialect) :
    (c.withPassword password).hostUrl dialect = c.withoutPassword.hostUrl dialect := by
  have hhost : (c.withPassword password).hostText = c.withoutPassword.hostText := rfl
  unfold hostUrl
  rw [hhost]

/-- **The password is put into a location at the end.** -/
theorem location_withPassword :
    (c.withPassword password).location =
      c.withoutPassword.location.map (Location.withPassword password) := by
  have hdialect : (c.withPassword password).dialect = c.withoutPassword.dialect := rfl
  cases h : c.withoutPassword.dialect with
  | error e =>
    rw [location_of_unknown h, location_of_unknown (hdialect.trans h)]
    rfl
  | ok dialect =>
    by_cases hserver : dialect = .sqlite
    · subst hserver
      rw [location_of_file h, location_of_file (hdialect.trans h)]
      rfl
    · rw [location_of_server h hserver, location_of_server (hdialect.trans h) hserver,
        serverLocation_eq_map, serverLocation_eq_map]
      rw [hostUrl_withPassword]
      cases c.withoutPassword.hostUrl dialect with
      | error e => rfl
      | ok host =>
        exact congrArg (fun url => Except.ok (Location.server url))
          (c.completed_withPassword password dialect host)

end Config

/-! ## Reasons that are a matter of the scheme -/

/-- A reason for refusing locations to which nothing of a URL matters but its scheme. -/
def DependsOnScheme (reason : Location → DriverError) : Prop :=
  ∀ url url' : Url, url.scheme = url'.scheme → reason (.server url) = reason (.server url')

theorem Driver.dependsOnScheme_refusal : DependsOnScheme Driver.refusal := by
  intro url url' h
  exact congrArg DriverError.noDriver h

theorem DependsOnScheme.withPassword {reason : Location → DriverError} (h : DependsOnScheme reason)
    (password : String) (location : Location) :
    reason (location.withPassword password) = reason location := by
  cases location with
  | file text => rfl
  | server url => exact h _ _ rfl

namespace Config

variable {reason : Location → DriverError} (hreason : DependsOnScheme reason) (c : Config)
  (password : String)
include hreason

theorem openingError_withPassword :
    (c.withPassword password).openingError reason = c.withoutPassword.openingError reason := by
  have hlocation := c.location_withPassword password
  cases h : c.withoutPassword.location with
  | error e =>
    rw [h] at hlocation
    rw [openingError_of_error h, openingError_of_error hlocation]
  | ok location =>
    rw [h] at hlocation
    rw [openingError_of_location h, openingError_of_location hlocation, hreason.withPassword]
    rfl

theorem callError_withPassword (call : Call) :
    (c.withPassword password).callError reason call = c.withoutPassword.callError reason call := by
  unfold callError
  rw [openingError_withPassword hreason]

end Config

/-! ## Connectors that differ in their passwords -/

namespace Connector

/-- Two connectors that nobody who works with them can tell apart: their descriptions are equal, and
at every point of the same run so are the outcomes, the descriptions of the sessions, and what comes
of opening the connection then. -/
structure Indistinguishable (driver : Driver κ) (c c' : Connector κ) : Prop where
  describe_eq : c.describe = c'.describe
  outcomes_eq (operations : List Operation) :
    ((c.session driver).performAll operations).1 = ((c'.session driver).performAll operations).1
  session_eq (operations : List Operation) :
    ((c.session driver).performAll operations).2.describe describe =
      ((c'.session driver).performAll operations).2.describe describe
  connect_eq (operations : List Operation) :
    (((c.session driver).performAll operations).2.connection.connect driver).1 =
      (((c'.session driver).performAll operations).2.connection.connect driver).1

/-- Two closed connectors whose configurations differ in nothing but the passwords. -/
inductive DifferInPassword : Connector κ → Connector κ → Prop
  | intro (config : Config) (dialect : Dialect) (password password' : String) :
      DifferInPassword ⟨config.withPassword password, dialect, none⟩
        ⟨config.withPassword password', dialect, none⟩

namespace DifferInPassword

variable {driver : Driver κ} {reason : Location → DriverError} {c c' : Connector κ}

theorem describe_eq (h : DifferInPassword c c') : c.describe = c'.describe := by
  cases h
  rfl

/-- They answer each call alike, and are not changed by it. -/
theorem answer (hdriver : driver.Refuses reason) (hreason : DependsOnScheme reason)
    (h : DifferInPassword c c') (dialect : Dialect) (call : Call) :
    ((backend driver dialect).answer call c).1 = ((backend driver dialect).answer call c').1 ∧
      DifferInPassword ((backend driver dialect).answer call c).2
        ((backend driver dialect).answer call c').2 := by
  obtain ⟨config, own, password, password'⟩ := h
  rw [answer_of_refuses hdriver rfl, answer_of_refuses hdriver rfl]
  refine ⟨congrArg Except.error ?_, .intro config own password password'⟩
  rw [Config.callError_withPassword hreason, Config.callError_withPassword hreason]

theorem connect_eq (hdriver : driver.Refuses reason) (hreason : DependsOnScheme reason)
    (h : DifferInPassword c c') : (c.connect driver).1 = (c'.connect driver).1 := by
  obtain ⟨config, own, password, password'⟩ := h
  unfold connect
  rw [withHandle_of_refuses hdriver rfl, withHandle_of_refuses hdriver rfl]
  refine congrArg Except.error ?_
  rw [Config.openingError_withPassword hreason, Config.openingError_withPassword hreason]

theorem indistinguishable (hdriver : driver.Refuses reason) (hreason : DependsOnScheme reason)
    (h : DifferInPassword c c') : Indistinguishable driver c c' := by
  have hdialect : c.dialect = c'.dialect := by
    cases h
    rfl
  have hbackend : (backend driver c.dialect).AnswersAlike (backend driver c'.dialect)
      DifferInPassword := by
    refine ⟨hdialect, fun call state state' hstate => ?_⟩
    rw [← hdialect]
    exact hstate.answer hdriver hreason c.dialect call
  have hrun : ∀ operations, _ :=
    Session.performAll_of_related (s := c.session driver) (t := c'.session driver) hbackend rfl h
  refine ⟨h.describe_eq, fun operations => (hrun operations).1, fun operations => ?_,
    fun operations => (hrun operations).2.connect_eq hdriver hreason⟩
  have hsessions : (c.session driver).dialect = (c'.session driver).dialect := hdialect
  unfold Session.describe
  rw [(hrun operations).2.describe_eq, Session.draft_performAll, Session.draft_performAll,
    Session.dialect_performAll, Session.dialect_performAll, hsessions]
  rfl

end DifferInPassword

end Connector

/-! ## What can be seen of a password -/

namespace Config

theorem url_withPassword (c : Config) (password : String) :
    (c.withPassword password).url =
      c.withoutPassword.location.map fun location => (location.withPassword password).render := by
  rw [url_eq_map, location_withPassword]
  cases c.withoutPassword.location <;> rfl

/-- **A password is seen in the URL only.**  Two configurations with different passwords, and
otherwise equal, have one description, one data source, one dialect and one result of being checked;
both have a URL, or none for the same reason.  A connector is made from both or from none, for the
same reason; and where the driver refuses every location for a reason that is a matter of the scheme,
the two connectors are indistinguishable, whatever is asked of them. -/
theorem passwords_indistinguishable {driver : Driver κ} {reason : Location → DriverError}
    (hdriver : driver.Refuses reason) (hreason : DependsOnScheme reason) (c : Config)
    (password password' : String) :
    let one := c.withPassword password
    let other := c.withPassword password'
    (one.describe = other.describe ∧ one.dsn = other.dsn ∧ one.dialect = other.dialect ∧
      one.validate = other.validate) ∧
    Agree (fun _ _ => True) one.url other.url ∧
    Agree (Connector.Indistinguishable driver) (Connector.new one) (Connector.new other) := by
  intro one other
  refine ⟨⟨rfl, rfl, rfl, rfl⟩, ?_, ?_⟩
  · show Agree _ (c.withPassword password).url (c.withPassword password').url
    rw [url_withPassword, url_withPassword]
    cases c.withoutPassword.location with
    | ok location => exact .ok trivial
    | error e => exact .error e
  · have hchecked : (one.validate.bind fun _ => one.dialect) =
        other.validate.bind fun _ => other.dialect := rfl
    rw [Connector.new_eq_map, Connector.new_eq_map, hchecked]
    cases other.validate.bind fun _ => other.dialect with
    | ok dialect =>
      refine .ok (Connector.DifferInPassword.indistinguishable hdriver hreason ?_)
      exact .intro c dialect password password'
    | error e => exact .error e

theorem passwords_without_driver :
    let config := { of "pgsql" "shop" with host := some "db" }
    let one := config.withPassword "p@ss"
    let other := config.withPassword ""
    one.url = .ok "postgres://:p%40ss@db:5432/shop" ∧ other.url = .ok "postgres://db:5432/shop" ∧
      one.describe = other.describe ∧
      Connector.Indistinguishable Driver.absent ⟨one, .postgres, none⟩ ⟨other, .postgres, none⟩ := by
  intro config one other
  obtain ⟨⟨hdescribe, -⟩, -, hconnectors⟩ := passwords_indistinguishable
    Driver.refuses_absent Driver.dependsOnScheme_refusal config "p@ss" ""
  have hchecked : (config.validate.bind fun _ => config.dialect) = .ok .postgres := by decide
  have hnew : ∀ password, (Connector.new (config.withPassword password) : Except Error _) =
      .ok (⟨config.withPassword password, .postgres, none⟩ : Connector Empty) := by
    intro password
    rw [Connector.new_eq_map]
    exact congrArg (Except.map _) hchecked
  rw [hnew, hnew] at hconnectors
  refine ⟨by decide +kernel, by decide +kernel, hdescribe, ?_⟩
  cases hconnectors with
  | ok h => exact h

end Config

end SqlBuilder
