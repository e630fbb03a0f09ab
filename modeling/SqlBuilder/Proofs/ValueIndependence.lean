import Mathlib.Data.List.Forall2
import SqlBuilder.Connection.Scripted
import SqlBuilder.Proofs.OperationPlans
import SqlBuilder.Proofs.ValueErasure

/-!
# Runs with other values

Two runs that ask for the same operations with other values, and whose calls are answered in the
same way, cannot be told apart by anything but values: each operation succeeds or fails as in the
other run, each statement is the same text with the same parameters, and every dialect rewrites it
to the same positional text with equally many values.

The runs are compared one operation at a time.  What carries the comparison is that the two drafts
have one erasure; from it follows that the plans of an operation are alike (`plan_alike`), and that
the drafts that it leaves have one erasure again (`after_withoutValues`).
-/
namespace SqlBuilder

/-! ## What two runs have in common -/

/-- Two attempts come to the same: both succeed, with related results, or both fail in the same
way. -/
inductive Agree {ε α : Type} (related : α → α → Prop) : Except ε α → Except ε α → Prop
  | ok {a a' : α} (h : related a a') : Agree related (.ok a) (.ok a')
  | error (e : ε) : Agree related (.error e) (.error e)

theorem Agree.of_eq {ε α : Type} {related : α → α → Prop} (hrefl : ∀ a, related a a)
    {x x' : Except ε α} (h : x = x') : Agree related x x' := by
  subst h
  cases x with
  | ok a => exact .ok (hrefl a)
  | error e => exact .error e

theorem Agree.of_map_eq {ε α β : Type} {related : α → α → Prop} {f : α → β}
    (hrelated : ∀ a a', f a = f a' → related a a') {x x' : Except ε α} (h : x.map f = x'.map f) :
    Agree related x x' := by
  cases x with
  | ok a =>
    cases x' with
    | ok a' => exact .ok (hrelated a a' (Except.ok.inj h))
    | error e => cases h
  | error e =>
    cases x' with
    | ok a' => cases h
    | error e' =>
      cases h
      exact .error e

/-- Two statements in the same words: the same text and the same parameters in the same order, which
every dialect rewrites to the same text with equally many values, or refuses for the same reason. -/
structure InSameWords (sql : String) (bindings : Bindings) (sql' : String) (bindings' : Bindings) :
    Prop where
  sql_eq : sql = sql'
  keys_eq : bindings.keys = bindings'.keys
  positional_agree : ∀ dialect : Dialect,
    Agree (fun r r' : Positional.Result => r.sql = r'.sql ∧ r.values.length = r'.values.length)
      (positional dialect bindings sql) (positional dialect bindings' sql')

/-- The same text and the same parameters are enough. -/
theorem InSameWords.of_keys {bindings bindings' : Bindings} (h : bindings.keys = bindings'.keys)
    (sql : String) : InSameWords sql bindings sql bindings' := by
  refine ⟨rfl, h, fun dialect => Agree.of_map_eq (f := Positional.Result.withoutValues) ?_ ?_⟩
  · intro r r' hr
    have hsql := congrArg Positional.Result.sql hr
    have hvalues := congrArg (fun r : Positional.Result => r.values.length) hr
    exact ⟨hsql, by simpa [Positional.Result.withoutValues] using hvalues⟩
  · rw [← Positional.positional_withoutValues, ← Positional.positional_withoutValues,
      Bindings.withoutValues_eq_iff.mpr h]

/-- The same call with other values. -/
inductive Call.Alike : Call → Call → Prop
  | execute {sql sql' : String} {bindings bindings' : Bindings}
      (h : InSameWords sql bindings sql' bindings') :
      Alike (.execute sql bindings) (.execute sql' bindings')
  | fetchAll {sql sql' : String} {bindings bindings' : Bindings}
      (h : InSameWords sql bindings sql' bindings') :
      Alike (.fetchAll sql bindings) (.fetchAll sql' bindings')
  | begin : Alike .begin .begin
  | commit : Alike .commit .commit
  | rollback : Alike .rollback .rollback

theorem Call.Alike.refl : ∀ call : Call, call.Alike call
  | .execute sql _ => .execute (.of_keys rfl sql)
  | .fetchAll sql _ => .fetchAll (.of_keys rfl sql)
  | .begin => .begin
  | .commit => .commit
  | .rollback => .rollback

/-- The same outcome, up to the values in a statement that it is. -/
inductive Outcome.Alike : Outcome → Outcome → Prop
  | prepared {p p' : Prepared} (hverb : p.verb = p'.verb)
      (h : InSameWords p.sql p.bindings p'.sql p'.bindings) : Alike (.prepared p) (.prepared p')
  | same (outcome : Outcome) : Alike outcome outcome

/-- The same operation with other values. -/
inductive Operation.Alike : Operation → Operation → Prop
  | filter (column : String) (comparison : Comparison) (value value' : Value)
      (conjunction : Conjunction) :
      Alike (.edit (.filter ⟨column, comparison, value, conjunction⟩))
        (.edit (.filter ⟨column, comparison, value', conjunction⟩))
  | insert {fields fields' : Fields} (h : fields.map Prod.fst = fields'.map Prod.fst) :
      Alike (.insert fields) (.insert fields')
  | insertReturningId {fields fields' : Fields} (h : fields.map Prod.fst = fields'.map Prod.fst) :
      Alike (.insertReturningId fields) (.insertReturningId fields')
  | update {fields fields' : Fields} (h : fields.map Prod.fst = fields'.map Prod.fst) :
      Alike (.update fields) (.update fields')
  /-- A statement prepared elsewhere, as a preview of an earlier draft is. -/
  | execute (verb : Verb) (sql : String) {bindings bindings' : Bindings}
      (h : bindings.keys = bindings'.keys) :
      Alike (.execute ⟨verb, sql, bindings⟩) (.execute ⟨verb, sql, bindings'⟩)
  | same (operation : Operation) : Alike operation operation

/-- Calls are answered in the same way: as long as two runs make the same calls up to values, they
get the same replies. -/
def SameReplies (exchanges exchanges' : List Exchange) : Prop :=
  ∀ pair ∈ exchanges.zip exchanges',
    pair.1.call.Alike pair.2.call → HEq pair.1.reply pair.2.reply

theorem sameReplies_append {first first' rest rest' : List Exchange}
    (hlength : first.length = first'.length)
    (h : SameReplies (first ++ rest) (first' ++ rest')) :
    SameReplies first first' ∧ SameReplies rest rest' := by
  rw [SameReplies, List.zip_append hlength] at h
  exact ⟨fun pair hpair => h pair (List.mem_append_left _ hpair),
    fun pair hpair => h pair (List.mem_append_right _ hpair)⟩

/-! ## Plans -/

namespace Plan

variable {α β σ τ : Type}

/-- Two plans that are the same up to values: they come to the same without a call, or make the same
call and conclude the same from its reply. -/
inductive Alike (related : α → α → Prop) : Plan α → Plan α → Prop
  | settled {x x' : Except Error α} (h : Agree related x x') :
      Alike related (.settled x) (.settled x')
  | execute (sql : String) {bindings bindings' : Bindings} (h : bindings.keys = bindings'.keys)
      (conclude : Except Error Nat → Except Error α) :
      Alike related (.ask (.execute sql bindings) conclude) (.ask (.execute sql bindings') conclude)
  | fetchAll (sql : String) {bindings bindings' : Bindings} (h : bindings.keys = bindings'.keys)
      (conclude : Except Error (List Row) → Except Error α) :
      Alike related (.ask (.fetchAll sql bindings) conclude)
        (.ask (.fetchAll sql bindings') conclude)
  | same {call : Call} (conclude : Except Error call.Reply → Except Error α) :
      Alike related (.ask call conclude) (.ask call conclude)

variable {related : β → β → Prop}

/-- A further step on the same result, whatever comes of it. -/
theorem Alike.andThen {plan plan' : Plan α} (h : plan.Alike Eq plan')
    (hrefl : ∀ b, related b b) (next : α → Except Error β) :
    (plan.andThen next).Alike related (plan'.andThen next) := by
  cases h with
  | settled h =>
    cases h with
    | ok h =>
      cases h
      exact .settled (Agree.of_eq hrefl rfl)
    | error e => exact .settled (.error e)
  | execute sql h conclude => exact .execute sql h _
  | fetchAll sql h conclude => exact .fetchAll sql h _
  | same conclude => exact .same _

/-- Plans that are alike make the same calls. -/
theorem Alike.calls {plan plan' : Plan β} (h : plan.Alike related plan') (backend : Backend σ)
    (state : σ) (backend' : Backend τ) (state' : τ) :
    List.Forall₂ Call.Alike ((plan.exchanges backend state).map Exchange.call)
      ((plan'.exchanges backend' state').map Exchange.call) := by
  cases h with
  | settled h => exact .nil
  | execute sql h conclude => exact .cons (.execute (.of_keys h sql)) .nil
  | fetchAll sql h conclude => exact .cons (.fetchAll (.of_keys h sql)) .nil
  | same conclude => exact .cons (.refl _) .nil

/-- Plans that are alike come to the same when they get the same reply. -/
theorem Alike.run {plan plan' : Plan β} (h : plan.Alike related plan')
    (hrefl : ∀ b, related b b) (backend : Backend σ) (state : σ) (backend' : Backend τ) (state' : τ)
    (hreplies : SameReplies (plan.exchanges backend state) (plan'.exchanges backend' state')) :
    Agree related (plan.run backend state).1 (plan'.run backend' state').1 := by
  -- In every case below the two calls are built alike, so that their replies have one type.
  have hreply {call call' : Call} (hcall : call.Alike call')
      (h : SameReplies [⟨call, (backend.answer call state).1⟩]
        [⟨call', (backend'.answer call' state').1⟩]) :
      HEq (backend.answer call state).1 (backend'.answer call' state').1 :=
    h _ (List.mem_singleton_self _) hcall
  cases h with
  | settled h => exact h
  | execute sql h conclude =>
    have hsame := hreply (.execute (.of_keys h sql)) hreplies
    exact Agree.of_eq hrefl (congrArg conclude (eq_of_heq hsame))
  | fetchAll sql h conclude =>
    have hsame := hreply (.fetchAll (.of_keys h sql)) hreplies
    exact Agree.of_eq hrefl (congrArg conclude (eq_of_heq hsame))
  | same conclude =>
    have hsame := hreply (.refl _) hreplies
    exact Agree.of_eq hrefl (congrArg conclude (eq_of_heq hsame))

end Plan

/-! ## Operations -/

namespace Prepared

theorem rows_alike (verb : Verb) (sql : String) {bindings bindings' : Bindings}
    (h : bindings.keys = bindings'.keys) :
    (rows ⟨verb, sql, bindings⟩).Alike Eq (rows ⟨verb, sql, bindings'⟩) :=
  .fetchAll sql h _

theorem newId_alike (verb : Verb) (sql : String) {bindings bindings' : Bindings}
    (h : bindings.keys = bindings'.keys) :
    (newId ⟨verb, sql, bindings⟩).Alike Eq (newId ⟨verb, sql, bindings'⟩) :=
  .fetchAll sql h _

theorem affected_alike (verb : Verb) (sql : String) {bindings bindings' : Bindings}
    (h : bindings.keys = bindings'.keys) :
    (affected ⟨verb, sql, bindings⟩).Alike Eq (affected ⟨verb, sql, bindings'⟩) :=
  .execute sql h _

theorem execution_alike (verb : Verb) (sql : String) {bindings bindings' : Bindings}
    (h : bindings.keys = bindings'.keys) :
    (execution ⟨verb, sql, bindings⟩).Alike Eq (execution ⟨verb, sql, bindings'⟩) := by
  cases verb with
  | select => exact (rows_alike _ sql h).andThen (fun _ => rfl) _
  | insertReturningId => exact (newId_alike _ sql h).andThen (fun _ => rfl) _
  | insert | update | delete => exact (affected_alike _ sql h).andThen (fun _ => rfl) _

end Prepared

namespace Draft

/-- Drafts with one erasure are prepared to the same text with the same parameters, or refused for
the same reason. -/
theorem prepare_agree {d d' : Draft} (h : d.withoutValues = d'.withoutValues) (dialect : Dialect)
    (verb : Verb) :
    Agree (fun p p' : Prepared =>
        p.verb = p'.verb ∧ p.sql = p'.sql ∧ p.bindings.keys = p'.bindings.keys)
      (d.prepare dialect verb) (d'.prepare dialect verb) := by
  refine Agree.of_map_eq (f := Prepared.withoutValues) ?_ ?_
  · intro p p' hp
    have hverb : p.withoutValues.verb = p'.withoutValues.verb := congrArg Prepared.verb hp
    have hsql : p.withoutValues.sql = p'.withoutValues.sql := congrArg Prepared.sql hp
    exact ⟨hverb, hsql, Bindings.withoutValues_eq_iff.mp (congrArg Prepared.bindings hp)⟩
  · rw [← prepare_withoutValues, ← prepare_withoutValues, h]

/-- What is done with a prepared statement is alike if it is so for statements in the same words. -/
theorem ofExcept_prepare_alike {α : Type} {d d' : Draft} (h : d.withoutValues = d'.withoutValues)
    (dialect : Dialect) (verb : Verb) {plan : Prepared → Plan α}
    (hplan : ∀ (verb : Verb) (sql : String) {bindings bindings' : Bindings},
      bindings.keys = bindings'.keys →
        (plan ⟨verb, sql, bindings⟩).Alike Eq (plan ⟨verb, sql, bindings'⟩)) :
    (Plan.ofExcept (d.prepare dialect verb) plan).Alike Eq
      (Plan.ofExcept (d'.prepare dialect verb) plan) := by
  have hprepare := prepare_agree h dialect verb
  generalize d.prepare dialect verb = x at hprepare
  generalize d'.prepare dialect verb = x' at hprepare
  cases hprepare with
  | error e => exact .settled (.error e)
  | @ok p p' hp =>
    obtain ⟨verb, sql, bindings⟩ := p
    obtain ⟨verb', sql', bindings'⟩ := p'
    obtain ⟨rfl, rfl, hkeys⟩ := hp
    exact hplan _ _ hkeys

theorem addInserted_erasure {d d' : Draft} (h : d.withoutValues = d'.withoutValues)
    {fields fields' : Fields} (hfields : fields.map Prod.fst = fields'.map Prod.fst) :
    (d.addInserted fields).withoutValues = (d'.addInserted fields').withoutValues := by
  rw [← addInserted_withoutValues, ← addInserted_withoutValues, h,
    Fields.withoutValues_eq_of_columns hfields]

theorem addUpdated_erasure {d d' : Draft} (h : d.withoutValues = d'.withoutValues)
    {fields fields' : Fields} (hfields : fields.map Prod.fst = fields'.map Prod.fst) :
    (d.addUpdated fields).withoutValues = (d'.addUpdated fields').withoutValues := by
  rw [← addUpdated_withoutValues, ← addUpdated_withoutValues, h,
    Fields.withoutValues_eq_of_columns hfields]

variable {d d' : Draft} (h : d.withoutValues = d'.withoutValues) (dialect : Dialect)
include h

theorem fetch_alike : (d.fetch dialect).Alike Eq (d'.fetch dialect) :=
  ofExcept_prepare_alike h dialect .select Prepared.rows_alike

theorem remove_alike : (d.remove dialect).Alike Eq (d'.remove dialect) :=
  ofExcept_prepare_alike h dialect .delete fun verb sql _ _ hkeys =>
    (Prepared.affected_alike verb sql hkeys).andThen (fun _ => rfl) _

variable {fields fields' : Fields} (hfields : fields.map Prod.fst = fields'.map Prod.fst)
include hfields

theorem store_alike : (d.store dialect fields).Alike Eq (d'.store dialect fields') :=
  ofExcept_prepare_alike (addInserted_erasure h hfields) dialect .insert fun verb sql _ _ hkeys =>
    (Prepared.affected_alike verb sql hkeys).andThen (fun _ => rfl) _

theorem storeReturningId_alike :
    (d.storeReturningId dialect fields).Alike Eq (d'.storeReturningId dialect fields') :=
  ofExcept_prepare_alike (addInserted_erasure h hfields) dialect .insertReturningId
    Prepared.newId_alike

theorem change_alike : (d.change dialect fields).Alike Eq (d'.change dialect fields') :=
  ofExcept_prepare_alike (addUpdated_erasure h hfields) dialect .update fun verb sql _ _ hkeys =>
    (Prepared.affected_alike verb sql hkeys).andThen (fun _ => rfl) _

omit hfields

/-- **The same operation on drafts with one erasure** is planned alike. -/
theorem plan_alike {operation operation' : Operation} (ho : operation.Alike operation') :
    (d.plan dialect operation).Alike Outcome.Alike (d'.plan dialect operation') := by
  have hrefl : ∀ outcome : Outcome, outcome.Alike outcome := .same
  cases ho with
  | filter column comparison value value' conjunction => exact .settled (.ok (.same _))
  | insert hfields => exact (store_alike h dialect hfields).andThen hrefl _
  | insertReturningId hfields => exact (storeReturningId_alike h dialect hfields).andThen hrefl _
  | update hfields => exact (change_alike h dialect hfields).andThen hrefl _
  | execute verb sql hkeys => exact (Prepared.execution_alike verb sql hkeys).andThen hrefl _
  | same operation =>
    cases operation with
    | edit e => exact .settled (.ok (.same _))
    | preview verb =>
      have hprepare := prepare_agree h dialect verb
      refine .settled ?_
      generalize d.prepare dialect verb = x at hprepare
      generalize d'.prepare dialect verb = x' at hprepare
      cases hprepare with
      | error e => exact .error e
      | @ok p p' hp =>
        obtain ⟨hverb, hsql, hkeys⟩ := hp
        exact .ok (.prepared hverb (hsql ▸ .of_keys hkeys p.sql))
    | get | getAs decode => exact (fetch_alike h dialect).andThen hrefl _
    | insert fields => exact (store_alike h dialect rfl).andThen hrefl _
    | insertReturningId fields => exact (storeReturningId_alike h dialect rfl).andThen hrefl _
    | update fields => exact (change_alike h dialect rfl).andThen hrefl _
    | delete => exact (remove_alike h dialect).andThen hrefl _
    | execute p => exact (Prepared.execution_alike p.verb p.sql rfl).andThen hrefl _
    | begin | commit | rollback => exact .same _

/-- The drafts that the same operation leaves have one erasure again. -/
theorem after_withoutValues {operation operation' : Operation} (ho : operation.Alike operation') :
    (d.after operation).withoutValues = (d'.after operation').withoutValues := by
  cases ho with
  | filter column comparison value value' conjunction =>
    show (d.edit _).withoutValues = (d'.edit _).withoutValues
    rw [← edit_withoutValues, ← edit_withoutValues, h]
    rfl
  | insert hfields | insertReturningId hfields | update hfields => rfl
  | execute verb sql hkeys => exact h
  | same operation =>
    cases operation with
    | edit e =>
      show (d.edit e).withoutValues = (d'.edit e).withoutValues
      rw [← edit_withoutValues, ← edit_withoutValues, h]
    | get | getAs decode | insert fields | insertReturningId fields | update fields | delete => rfl
    | preview verb | execute p | begin | commit | rollback => exact h

end Draft

/-! ## Runs -/

namespace Session

variable {σ τ : Type}

/-- Two sessions whose drafts have one erasure go on alike. -/
theorem performAll_alike {operations operations' : List Operation}
    (h : List.Forall₂ Operation.Alike operations operations') {s : Session σ} {s' : Session τ}
    (hdialect : s.dialect = s'.dialect) (hdraft : s.draft.withoutValues = s'.draft.withoutValues)
    (hreplies : SameReplies (s.exchanges operations) (s'.exchanges operations')) :
    List.Forall₂ (Agree Outcome.Alike) (s.performAll operations).1
        (s'.performAll operations').1 ∧
      List.Forall₂ Call.Alike (s.calls operations) (s'.calls operations') := by
  induction h generalizing s s' with
  | nil => exact ⟨.nil, .nil⟩
  | @cons operation operation' rest rest' ho _ ih =>
    have hplan := Draft.plan_alike hdraft s.dialect ho
    have hcalls := hplan.calls s.backend s.connection s'.backend s'.connection
    rw [exchanges_cons, exchanges_cons, ← hdialect] at hreplies
    -- Plans that are alike take equally many exchanges, so both records split behind them.
    obtain ⟨hfirst, hrest⟩ := sameReplies_append (by simpa using hcalls.length_eq) hreplies
    have houtcome := hplan.run .same s.backend s.connection s'.backend s'.connection hfirst
    obtain ⟨houtcomes, hrestCalls⟩ := @ih (s.perform operation).2 (s'.perform operation').2
      (by rw [perform_eq, perform_eq]; exact hdialect)
      (by rw [draft_perform, draft_perform]; exact Draft.after_withoutValues hdraft ho) hrest
    refine ⟨?_, ?_⟩
    · rw [performAll_cons, performAll_cons]
      refine .cons ?_ houtcomes
      rw [perform_eq, perform_eq, ← hdialect]
      exact houtcome
    · rw [calls, calls, exchanges_cons, exchanges_cons, ← hdialect, List.map_append,
        List.map_append]
      exact List.rel_append hcalls hrestCalls

/-- **Values never reach the text.**  Two new sessions of one dialect are asked for the same
operations, with whatever values, on connections that answer in the same way.  Then their outcomes
and the calls that they make are the same up to values: the same successes and the same errors, and
statements of the same text with the same parameters, which every dialect rewrites to the same
text. -/
theorem text_independent_of_values (backend : Backend σ) (connection : σ) (backend' : Backend τ)
    (connection' : τ) {operations operations' : List Operation}
    (hdialect : backend.dialect = backend'.dialect)
    (hoperations : List.Forall₂ Operation.Alike operations operations')
    (hreplies : SameReplies ((Session.new backend connection).exchanges operations)
      ((Session.new backend' connection').exchanges operations')) :
    List.Forall₂ (Agree Outcome.Alike) ((Session.new backend connection).performAll operations).1
        ((Session.new backend' connection').performAll operations').1 ∧
      List.Forall₂ Call.Alike ((Session.new backend connection).calls operations)
        ((Session.new backend' connection').calls operations') :=
  performAll_alike hoperations hdialect rfl hreplies

/-- A read and an insert with other values, among them null and a text that looks like SQL; the last
insert is refused in both runs, since the draft is blank again. -/
theorem visits_alike :
    let visit (id name : Value) : List Operation := [.edit (.table "users"),
      .edit (.filter ⟨"users.id", .equal, id, .and⟩), .preview .select, .get,
      .edit (.table "users"), .insert [("name", name)], .insert [("name", name)]]
    let s := Session.new (Scripted.backend .postgres) Scripted.initial
    let known := visit (.int32 7) (.text "Ada")
    let hostile := visit .null (.text "', :id); --")
    List.Forall₂ (Agree Outcome.Alike) (s.performAll known).1 (s.performAll hostile).1 ∧
      List.Forall₂ Call.Alike (s.calls known) (s.calls hostile) := by
  intro visit s known hostile
  have hoperations : List.Forall₂ Operation.Alike known hostile :=
    .cons (.same _) (.cons (.filter _ _ _ _ _) (.cons (.same _) (.cons (.same _)
      (.cons (.same _) (.cons (.insert rfl) (.cons (.insert rfl) .nil))))))
  have hexchanges (id name : Value) : ∃ sql bindings sql' bindings', s.exchanges (visit id name) =
      [⟨.fetchAll sql bindings, .ok []⟩, ⟨.execute sql' bindings', .ok (1 : Nat)⟩] :=
    ⟨_, _, _, _, rfl⟩
  obtain ⟨_, _, _, _, hknown⟩ := hexchanges (.int32 7) (.text "Ada")
  obtain ⟨_, _, _, _, hhostile⟩ := hexchanges .null (.text "', :id); --")
  refine text_independent_of_values _ _ _ _ rfl hoperations ?_
  intro pair hpair _
  rw [show s.exchanges known = _ from hknown, show s.exchanges hostile = _ from hhostile] at hpair
  rcases List.mem_cons.mp hpair with rfl | hpair
  · exact HEq.refl (Except.ok [] : Except Error (List Row))
  · rcases List.mem_singleton.mp hpair with rfl
    exact HEq.refl (Except.ok 1 : Except Error Nat)

end Session

end SqlBuilder
