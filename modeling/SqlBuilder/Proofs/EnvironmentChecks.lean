import SqlBuilder.Proofs.ConnectorOpening
import SqlBuilder.Proofs.DecimalNumerals
import SqlBuilder.Proofs.FirstFailures

/-!
# Environments that describe a connection

What an environment has to say is a list of requirements, in the order in which they are checked
(`Environment.requirements`): the port comes first, although it is the only one that need not be there
at all, and the host last, because it takes the driver to know whether one is needed.  The first three
make a configuration, and all five a connector.

Each check answers to its requirement: it goes on if the requirement is met, and else fails with the
problem that the requirement names (`Answers`).  Checks one after the other answer to their
requirements one after the other (`Answers.bind`).  So an environment is accepted exactly if it meets
all requirements, and otherwise the first that is not met is the error.
-/
namespace SqlBuilder

/-! ## Requirements -/

/-- Something that has to hold, and what is wrong if it does not. -/
structure Requirement where
  met : Prop
  problem : ConnectionProblem

/-- The first of some requirements that is not met, by its problem. -/
inductive FirstUnmet : List Requirement → ConnectionProblem → Prop
  | here {requirement : Requirement} {rest : List Requirement} (h : ¬ requirement.met) :
      FirstUnmet (requirement :: rest) requirement.problem
  | later {requirement : Requirement} {rest : List Requirement} {problem : ConnectionProblem}
      (hmet : requirement.met) (h : FirstUnmet rest problem) :
      FirstUnmet (requirement :: rest) problem

namespace FirstUnmet

variable {requirements more : List Requirement} {problem other : ConnectionProblem}

theorem append_right (h : FirstUnmet requirements problem) (more : List Requirement) :
    FirstUnmet (requirements ++ more) problem := by
  induction h with
  | here h => exact .here h
  | later hmet _ ih => exact .later hmet ih

theorem append_left (hmet : ∀ requirement ∈ requirements, requirement.met)
    (h : FirstUnmet more problem) : FirstUnmet (requirements ++ more) problem := by
  induction requirements with
  | nil => exact h
  | cons requirement rest ih =>
    obtain ⟨hfirst, hrest⟩ := List.forall_mem_cons.mp hmet
    exact .later hfirst (ih hrest)

theorem not_forall_met (h : FirstUnmet requirements problem) :
    ¬ ∀ requirement ∈ requirements, requirement.met := by
  intro hmet
  induction h with
  | here h => exact h (hmet _ List.mem_cons_self)
  | later _ _ ih => exact ih (List.forall_mem_cons.mp hmet).2

theorem problem_unique (h : FirstUnmet requirements problem)
    (hother : FirstUnmet requirements other) : problem = other := by
  induction h with
  | here h =>
    cases hother with
    | here => rfl
    | later hmet => exact absurd hmet h
  | later hmet _ ih =>
    cases hother with
    | here h => exact absurd hmet h
    | later _ hother => exact ih hother

end FirstUnmet

/-- A result that is there if some requirements are met, and is otherwise the problem of the first
that is not. -/
inductive Answers {α : Type} (requirements : List Requirement) : Except Error α → Prop
  | accepted {x : α} (h : ∀ requirement ∈ requirements, requirement.met) :
      Answers requirements (.ok x)
  | refused {problem : ConnectionProblem} (h : FirstUnmet requirements problem) :
      Answers requirements (.error (.connection problem none))

namespace Answers

variable {α β : Type} {requirements more : List Requirement} {result : Except Error α}

/-- A single check. -/
theorem of_iff {requirement : Requirement} (hok : (∃ x, result = .ok x) ↔ requirement.met)
    (herror : ∀ e, result = .error e → e = .connection requirement.problem none) :
    Answers [requirement] result := by
  cases result with
  | ok x => exact .accepted (List.forall_mem_singleton.mpr (hok.mp ⟨x, rfl⟩))
  | error e =>
    rw [herror e rfl]
    exact .refused (.here fun hmet => nomatch hok.mpr hmet)

theorem bind (h : Answers requirements result) {next : α → Except Error β}
    (hnext : ∀ x, result = .ok x → Answers more (next x)) :
    Answers (requirements ++ more) (result >>= next) := by
  cases h with
  | refused h => exact .refused (h.append_right more)
  | @accepted x hmet =>
    have hx : (Except.ok x >>= next) = next x := rfl
    rw [hx]
    have hanswers := hnext x rfl
    generalize next x = outcome at hanswers ⊢
    cases hanswers with
    | accepted hmore => exact .accepted (List.forall_mem_append.mpr ⟨hmet, hmore⟩)
    | refused h => exact .refused (h.append_left hmet)

theorem exists_ok_iff (h : Answers requirements result) :
    (∃ x, result = .ok x) ↔ ∀ requirement ∈ requirements, requirement.met := by
  cases h with
  | accepted hmet => exact iff_of_true ⟨_, rfl⟩ hmet
  | refused h => exact iff_of_false nofun h.not_forall_met

theorem eq_error_iff (h : Answers requirements result) {e : Error} :
    result = .error e ↔
      ∃ problem, FirstUnmet requirements problem ∧ e = .connection problem none := by
  cases h with
  | accepted hmet => exact iff_of_false nofun fun ⟨_, h, _⟩ => h.not_forall_met hmet
  | refused h =>
    constructor
    · rintro ⟨⟩
      exact ⟨_, h, rfl⟩
    · rintro ⟨problem, hproblem, rfl⟩
      rw [h.problem_unique hproblem]

end Answers

/-! ## What an environment has to say -/

namespace Environment

variable (environment : String → Option String)

/-- The variables of the port and the ports that they give: none at all, or a numeral of 16 bits. -/
inductive GivesPort : Option String → Option UInt16 → Prop
  | unset : GivesPort none none
  | numeral {text : String} {port : UInt16} (h : Integer.Natural text.toList port.toNat) :
      GivesPort (some text) (some port)

def portRequirement : Requirement where
  met := ∃ port, GivesPort (environment "DB_PORT") port
  problem := .invalidPortText ((environment "DB_PORT").getD "")

/-- A variable has to be set, and not to an empty text. -/
def textRequirement (name : String) : Requirement where
  met := ∃ text, environment name = some text ∧ text ≠ ""
  problem := .missingKey name

/-- The names of drivers that connect to a server. -/
def serverDrivers : List String := ["pgsql", "postgres", "postgresql", "mysql", "mariadb"]

/-- The names of drivers that open a file. -/
def fileDrivers : List String := ["sqlite", "sqlite3"]

/-- A text that is one of some names, apart from the case of ASCII letters. -/
def IsAnyOf (names : List String) (text : String) : Prop :=
  ∃ name ∈ names, Dialect.lowerCase text = Dialect.lowerCase name

def driverRequirement (driver : String) : Requirement where
  met := IsAnyOf (serverDrivers ++ fileDrivers) driver
  problem := .unknownDriver driver

def hostRequirement (driver : String) (host : Option String) : Requirement where
  met := IsAnyOf fileDrivers driver ∨ ∃ text, host = some text ∧ text ≠ ""
  problem := .missingKey "host"

/-- What a configuration needs, in the order of the checks. -/
def configRequirements : List Requirement :=
  [portRequirement environment, textRequirement environment "DB_CONNECTION",
    textRequirement environment "DB_DATABASE"]

/-- What a connector needs as well, in the order of the checks. -/
def connectorRequirements : List Requirement :=
  [driverRequirement ((environment "DB_CONNECTION").getD ""),
    hostRequirement ((environment "DB_CONNECTION").getD "") (environment "DB_HOST")]

/-- A configuration that holds what the variables say and nothing else. -/
structure Describes (c : Config) : Prop where
  driver : environment "DB_CONNECTION" = some c.driver
  driver_ne : c.driver ≠ ""
  host : environment "DB_HOST" = c.host
  port : GivesPort (environment "DB_PORT") c.port
  dbname : environment "DB_DATABASE" = some c.dbname
  dbname_ne : c.dbname ≠ ""
  user : environment "DB_USERNAME" = c.user
  password : environment "DB_PASSWORD" = c.password
  options : c.options = .empty

/-! ## The checks of a configuration -/

variable {environment} in
theorem portVariable_eq_ok_iff {port : Option UInt16} :
    Config.portVariable environment = .ok port ↔ GivesPort (environment "DB_PORT") port := by
  unfold Config.portVariable
  cases environment "DB_PORT" with
  | none =>
    constructor
    · rintro ⟨⟩
      exact .unset
    · rintro ⟨⟩
      rfl
  | some text =>
    cases hread : Integer.unsigned16? text with
    | none =>
      simp only [hread]
      refine iff_of_false nofun fun hgives => ?_
      cases hgives with
      | numeral h =>
        rw [Integer.unsigned16?_eq_some_iff.mpr h] at hread
        cases hread
    | some port =>
      simp only [hread]
      constructor
      · rintro ⟨⟩
        exact .numeral (Integer.unsigned16?_eq_some_iff.mp hread)
      · intro hgives
        cases hgives with
        | numeral h =>
          rw [Integer.unsigned16?_eq_some_iff.mpr h] at hread
          rw [Option.some.inj hread]

theorem answers_portVariable :
    Answers [portRequirement environment] (Config.portVariable environment) := by
  refine .of_iff (exists_congr fun port => portVariable_eq_ok_iff) fun e he => ?_
  unfold Config.portVariable at he
  unfold portRequirement
  cases hport : environment "DB_PORT" with
  | none =>
    rw [hport] at he
    cases he
  | some text =>
    simp only [hport] at he
    cases hread : Integer.unsigned16? text with
    | none =>
      rw [hread] at he
      exact (Except.error.inj he).symm
    | some port =>
      rw [hread] at he
      cases he

variable {environment} in
theorem requiredVariable_eq_ok_iff {name text : String} :
    Config.requiredVariable environment name = .ok text ↔
      environment name = some text ∧ text ≠ "" := by
  unfold Config.requiredVariable
  cases environment name with
  | none => exact iff_of_false nofun (nomatch ·.1)
  | some value =>
    by_cases hempty : value = ""
    · simp only [if_pos hempty]
      refine iff_of_false nofun ?_
      rintro ⟨⟨⟩, hne⟩
      exact hne hempty
    · simp only [if_neg hempty]
      constructor
      · rintro ⟨⟩
        exact ⟨rfl, hempty⟩
      · rintro ⟨⟨⟩, -⟩
        rfl

theorem answers_requiredVariable (name : String) :
    Answers [textRequirement environment name] (Config.requiredVariable environment name) := by
  refine .of_iff (exists_congr fun text => requiredVariable_eq_ok_iff) fun e he => ?_
  unfold Config.requiredVariable at he
  split at he
  · split at he
    · exact (Except.error.inj he).symm
    · cases he
  · exact (Except.error.inj he).symm

theorem answers_ofEnvironment :
    Answers (configRequirements environment) (Config.ofEnvironment environment) := by
  refine (answers_portVariable environment).bind fun port _ => ?_
  refine (answers_requiredVariable environment "DB_CONNECTION").bind fun driver _ => ?_
  exact (answers_requiredVariable environment "DB_DATABASE").bind fun dbname _ => .accepted nofun

variable {environment} in
theorem ofEnvironment_eq_ok_iff {c : Config} :
    Config.ofEnvironment environment = .ok c ↔ Describes environment c := by
  have hread : Config.ofEnvironment environment = .ok c ↔ ∃ port driver dbname,
      Config.portVariable environment = .ok port ∧
        Config.requiredVariable environment "DB_CONNECTION" = .ok driver ∧
        Config.requiredVariable environment "DB_DATABASE" = .ok dbname ∧
        ⟨driver, environment "DB_HOST", port, dbname, environment "DB_USERNAME",
          environment "DB_PASSWORD", .empty⟩ = c := by
    unfold Config.ofEnvironment
    simp only [except_bind_eq_ok_iff, exists_and_left]
    exact exists_congr fun port => and_congr_right fun _ => exists_congr fun driver =>
      and_congr_right fun _ => exists_congr fun dbname => and_congr_right fun _ =>
        ⟨Except.ok.inj, congrArg Except.ok⟩
  rw [hread]
  simp only [portVariable_eq_ok_iff, requiredVariable_eq_ok_iff]
  constructor
  · rintro ⟨port, driver, dbname, hport, ⟨hdriver, hdriver_ne⟩, ⟨hdbname, hdbname_ne⟩, rfl⟩
    exact ⟨hdriver, hdriver_ne, rfl, hport, hdbname, hdbname_ne, rfl, rfl, rfl⟩
  · intro h
    refine ⟨c.port, c.driver, c.dbname, h.port, ⟨h.driver, h.driver_ne⟩, ⟨h.dbname, h.dbname_ne⟩, ?_⟩
    rw [h.host, h.user, h.password, ← h.options]

/-! ## The checks of a connector -/

theorem isAnyOf_iff {names : List String} (h : ∀ name ∈ names, Dialect.lowerCase name = name)
    {text : String} : IsAnyOf names text ↔ Dialect.lowerCase text ∈ names := by
  constructor
  · rintro ⟨name, hname, htext⟩
    rwa [htext, h name hname]
  · exact fun hmem => ⟨_, hmem, (h _ hmem).symm⟩

end Environment

namespace Dialect

theorem lowerCase_of_mem_driverNames {d : Dialect} {name : String} (h : name ∈ d.driverNames) :
    lowerCase name = name := by
  cases d
  all_goals
    simp only [driverNames, List.mem_cons, List.not_mem_nil, or_false] at h
  · rcases h with rfl | rfl | rfl <;> decide
  · rcases h with rfl | rfl <;> decide
  · rcases h with rfl | rfl <;> decide

/-- No name selects two dialects. -/
theorem eq_of_mem_driverNames {d e : Dialect} {name : String} (hd : name ∈ d.driverNames)
    (he : name ∈ e.driverNames) : d = e := by
  have hdisjoint : ∀ d e : Dialect, d = e ∨ ∀ name ∈ d.driverNames, name ∉ e.driverNames := by
    intro d e
    cases d <;> cases e <;> decide
  rcases hdisjoint d e with h | h
  · exact h
  · exact absurd he (h name hd)

theorem ofDriver?_eq_some_iff {driver : String} {d : Dialect} :
    ofDriver? driver = some d ↔ lowerCase driver ∈ d.driverNames := by
  have hnamed : ∀ {e}, ofDriver? driver = some e → lowerCase driver ∈ e.driverNames := fun h =>
    of_decide_eq_true
      (List.find?_some (p := fun d : Dialect => decide (lowerCase driver ∈ d.driverNames)) h)
  constructor
  · exact hnamed
  · intro h
    cases hfound : ofDriver? driver with
    | none =>
      have hall : d ∈ all := by cases d <;> decide
      have hnot := Bool.eq_false_iff.mpr (List.find?_eq_none.mp hfound d hall)
      exact absurd h (of_decide_eq_false hnot)
    | some e =>
      rw [eq_of_mem_driverNames (hnamed hfound) h]

end Dialect

namespace Environment

theorem isAnyOf_drivers_iff {driver : String} :
    IsAnyOf (serverDrivers ++ fileDrivers) driver ↔ ∃ d, Dialect.ofDriver? driver = some d := by
  have hnames : serverDrivers ++ fileDrivers = Dialect.all.flatMap Dialect.driverNames := rfl
  have hlower : ∀ name ∈ Dialect.all.flatMap Dialect.driverNames, Dialect.lowerCase name = name := by
    intro name hname
    obtain ⟨d, -, hd⟩ := List.mem_flatMap.mp hname
    exact Dialect.lowerCase_of_mem_driverNames hd
  rw [hnames, isAnyOf_iff hlower, List.mem_flatMap]
  simp only [Dialect.ofDriver?_eq_some_iff]
  refine exists_congr fun d => and_iff_right ?_
  cases d <;> decide

theorem isAnyOf_fileDrivers_iff {driver : String} :
    IsAnyOf fileDrivers driver ↔ Dialect.ofDriver? driver = some .sqlite := by
  rw [Dialect.ofDriver?_eq_some_iff]
  exact isAnyOf_iff fun name => @Dialect.lowerCase_of_mem_driverNames .sqlite name

end Environment

namespace Config

variable {c : Config} {dialect : Dialect}

theorem dialect_eq_ok_iff : c.dialect = .ok dialect ↔ Dialect.ofDriver? c.driver = some dialect := by
  unfold Config.dialect
  cases Dialect.ofDriver? c.driver with
  | none => exact iff_of_false nofun nofun
  | some other =>
    exact ⟨fun h => congrArg some (Except.ok.inj h), fun h => congrArg Except.ok (Option.some.inj h)⟩

theorem hostText_ne_iff : c.hostText ≠ "" ↔ ∃ text, c.host = some text ∧ text ≠ "" := by
  unfold hostText
  cases c.host with
  | none => exact iff_of_false (fun h => h rfl) nofun
  | some text => exact ⟨fun h => ⟨text, rfl, h⟩, fun ⟨_, h, hne⟩ => Option.some.inj h ▸ hne⟩

/-- A configuration with a database needs a host, or else no servers. -/
theorem validate_of_dialect (hdialect : c.dialect = .ok dialect) (hdbname : c.dbname ≠ "") :
    c.validate = if dialect ≠ .sqlite ∧ c.hostText = "" then
      .error (connectionError (.missingKey "host")) else .ok () := by
  unfold validate
  rw [hdialect]
  exact (if_neg hdbname).trans rfl

theorem validate_of_unknown {e : Error} (h : c.dialect = .error e) : c.validate = .error e := by
  unfold validate
  rw [h]
  rfl

end Config

namespace Connector

variable {κ : Type} {config : Config} {dialect : Dialect}

theorem new_of_unknown {e : Error} (h : config.dialect = .error e) :
    (new config : Except Error (Connector κ)) = .error e := by
  rw [new_eq_map, Config.validate_of_unknown h]
  rfl

theorem new_of_dialect (hdialect : config.dialect = .ok dialect) (hdbname : config.dbname ≠ "") :
    (new config : Except Error (Connector κ)) =
      if dialect ≠ .sqlite ∧ config.hostText = "" then
        .error (.connection (.missingKey "host") none) else .ok ⟨config, dialect, none⟩ := by
  rw [new_eq_map, Config.validate_of_dialect hdialect hdbname, hdialect]
  split <;> rfl

end Connector

namespace Environment

variable {κ : Type}

/-- A dialect needs a host exactly if it has servers. -/
theorem hostRequirement_met_iff {config : Config} {dialect : Dialect}
    (h : Dialect.ofDriver? config.driver = some dialect) :
    (hostRequirement config.driver config.host).met ↔
      ¬ (dialect ≠ .sqlite ∧ config.hostText = "") := by
  have hfile : IsAnyOf fileDrivers config.driver ↔ dialect = .sqlite := by
    rw [isAnyOf_fileDrivers_iff, h, Option.some.injEq]
  rw [not_and_or, not_not, ← hfile, ← ne_eq, Config.hostText_ne_iff]
  rfl

theorem answers_new {config : Config} (hdbname : config.dbname ≠ "") :
    Answers [driverRequirement config.driver, hostRequirement config.driver config.host]
      (Connector.new config : Except Error (Connector κ)) := by
  cases hdriver : Dialect.ofDriver? config.driver with
  | none =>
    have hdialect : config.dialect = .error (.connection (.unknownDriver config.driver) none) := by
      unfold Config.dialect
      rw [hdriver]
      rfl
    rw [Connector.new_of_unknown hdialect]
    refine .refused (.here fun hmet => ?_)
    obtain ⟨dialect, h⟩ := isAnyOf_drivers_iff.mp hmet
    rw [hdriver] at h
    cases h
  | some dialect =>
    have hmet : (driverRequirement config.driver).met := isAnyOf_drivers_iff.mpr ⟨dialect, hdriver⟩
    have hhost := hostRequirement_met_iff hdriver
    rw [Connector.new_of_dialect (Config.dialect_eq_ok_iff.mpr hdriver) hdbname]
    split
    · rename_i hmissing
      exact .refused (.later hmet (.here fun h => hhost.mp h hmissing))
    · rename_i hthere
      exact .accepted (List.forall_mem_cons.mpr
        ⟨hmet, List.forall_mem_singleton.mpr (hhost.mpr hthere)⟩)

theorem new_eq_ok_iff {config : Config} (hdbname : config.dbname ≠ "") {c : Connector κ} :
    Connector.new config = .ok c ↔ c.config = config ∧ c.handle = none ∧
      Dialect.ofDriver? config.driver = some c.dialect ∧
      (hostRequirement config.driver config.host).met := by
  constructor
  · intro h
    obtain ⟨hdialect, hconfig, hhandle⟩ := Connector.new_eq_ok h
    have hanswers := (answers_new hdbname).exists_ok_iff.mp ⟨c, h⟩
    exact ⟨hconfig, hhandle, Config.dialect_eq_ok_iff.mp hdialect,
      List.forall_mem_singleton.mp (List.forall_mem_cons.mp hanswers).2⟩
  · rintro ⟨rfl, hhandle, hdriver, hhost⟩
    rw [Connector.new_of_dialect (Config.dialect_eq_ok_iff.mpr hdriver) hdbname,
      if_neg ((hostRequirement_met_iff hdriver).mp hhost), ← hhandle]

variable (environment : String → Option String)

theorem answers_connector :
    Answers (configRequirements environment ++ connectorRequirements environment)
      (Connector.ofEnvironment environment : Except Error (Connector κ)) := by
  refine (answers_ofEnvironment environment).bind fun config hconfig => ?_
  have h := ofEnvironment_eq_ok_iff.mp hconfig
  have hrequirements : connectorRequirements environment =
      [driverRequirement config.driver, hostRequirement config.driver config.host] := by
    rw [connectorRequirements, h.driver, h.host]
    rfl
  rw [hrequirements]
  exact answers_new h.dbname_ne

/-- **An environment is accepted exactly if it meets all requirements.**  A configuration is made of
it if the port is unset or a numeral of 16 bits, and the driver and the database are set and not
empty; it holds what the variables say and nothing else.  A connector is made of it if moreover the
driver is one of the known names, and a host is set and not empty unless the driver opens a file.
Otherwise the error is that of the first requirement which is not met, in the order of the checks. -/
theorem accepted_iff_requirements_met :
    (∀ c, Config.ofEnvironment environment = .ok c ↔ Describes environment c) ∧
      ((∃ c, Config.ofEnvironment environment = .ok c) ↔
        ∀ requirement ∈ configRequirements environment, requirement.met) ∧
      (∀ e, Config.ofEnvironment environment = .error e ↔
        ∃ problem, FirstUnmet (configRequirements environment) problem ∧
          e = .connection problem none) ∧
      (∀ c : Connector κ, Connector.ofEnvironment environment = .ok c ↔
        Describes environment c.config ∧ c.handle = none ∧
          Dialect.lowerCase c.config.driver ∈ c.dialect.driverNames ∧
          (hostRequirement c.config.driver c.config.host).met) ∧
      ((∃ c : Connector κ, Connector.ofEnvironment environment = .ok c) ↔
        ∀ requirement ∈ configRequirements environment ++ connectorRequirements environment,
          requirement.met) ∧
      ∀ e, (Connector.ofEnvironment environment : Except Error (Connector κ)) = .error e ↔
        ∃ problem,
          FirstUnmet (configRequirements environment ++ connectorRequirements environment) problem ∧
          e = .connection problem none := by
  have hconfig := answers_ofEnvironment environment
  have hconnector : Answers (configRequirements environment ++ connectorRequirements environment)
      (Connector.ofEnvironment environment : Except Error (Connector κ)) :=
    answers_connector environment
  refine ⟨fun c => ofEnvironment_eq_ok_iff, hconfig.exists_ok_iff, fun e => hconfig.eq_error_iff,
    fun c => ?_, hconnector.exists_ok_iff, fun e => hconnector.eq_error_iff⟩
  rw [← Dialect.ofDriver?_eq_some_iff]
  refine except_bind_eq_ok_iff.trans ?_
  constructor
  · rintro ⟨config, hread, hnew⟩
    have h := ofEnvironment_eq_ok_iff.mp hread
    obtain ⟨rfl, hhandle, hdriver, hhost⟩ := (new_eq_ok_iff h.dbname_ne).mp hnew
    exact ⟨h, hhandle, hdriver, hhost⟩
  · rintro ⟨h, hhandle, hdriver, hhost⟩
    exact ⟨c.config, ofEnvironment_eq_ok_iff.mpr h,
      (new_eq_ok_iff h.dbname_ne).mpr ⟨rfl, hhandle, hdriver, hhost⟩⟩

/-- The largest port with zeros in front makes a configuration, which has an empty host and so makes
no connector.  The next port is refused before the host is looked at. -/
theorem config_without_connector :
    let environment (port name : String) : Option String :=
      [("DB_HOST", ""), ("DB_PORT", port), ("DB_CONNECTION", "MariaDB"), ("DB_DATABASE", "app")].lookup
        name
    (∀ requirement ∈ configRequirements (environment "+0065535"), requirement.met) ∧
      (∃ c, Config.ofEnvironment (environment "+0065535") = .ok c) ∧
      (Connector.ofEnvironment (environment "+0065535") : Except Error (Connector Empty)) =
        .error (.connection (.missingKey "host") none) ∧
      (Connector.ofEnvironment (environment "65536") : Except Error (Connector Empty)) =
        .error (.connection (.invalidPortText "65536") none) := by
  intro environment
  have hdriver : (textRequirement (environment "+0065535") "DB_CONNECTION").met :=
    ⟨"MariaDB", rfl, by decide⟩
  have hdbname : (textRequirement (environment "+0065535") "DB_DATABASE").met :=
    ⟨"app", rfl, by decide⟩
  have hport : (portRequirement (environment "+0065535")).met :=
    ⟨some 65535, .numeral (Integer.unsigned16?_eq_some_iff.mp (by decide +kernel))⟩
  have hmet : ∀ requirement ∈ configRequirements (environment "+0065535"), requirement.met :=
    List.forall_mem_cons.mpr ⟨hport, List.forall_mem_cons.mpr
      ⟨hdriver, List.forall_mem_singleton.mpr hdbname⟩⟩
  have hknown : (driverRequirement "MariaDB").met := ⟨"mariadb", by decide, by decide⟩
  have hhost : ¬ (hostRequirement "MariaDB" (some "")).met := by
    rintro (hfile | ⟨text, h, hne⟩)
    · exact absurd (isAnyOf_fileDrivers_iff.mp hfile) (by decide)
    · exact hne (Option.some.inj h).symm
  have hnumeral : ¬ (portRequirement (environment "65536")).met := by
    rintro ⟨port, hgives⟩
    exact nomatch portVariable_eq_ok_iff.mpr hgives
  have hunmet : FirstUnmet (configRequirements (environment "+0065535") ++
      connectorRequirements (environment "+0065535")) (.missingKey "host") :=
    FirstUnmet.append_left hmet (.later hknown (.here hhost))
  exact ⟨hmet, (@accepted_iff_requirements_met Empty _).2.1.mpr hmet,
    ((accepted_iff_requirements_met _).2.2.2.2.2 _).mpr ⟨_, hunmet, rfl⟩,
    ((accepted_iff_requirements_met _).2.2.2.2.2 _).mpr ⟨_, .here hnumeral, rfl⟩⟩

end Environment

end SqlBuilder
