import SqlBuilder.Proofs.DraftBindings

/-!
# When a statement is refused

A statement is checked in several places before it is sent: a table and fields are asked for when the
draft is checked, and the dialect when the text is written.  For the drafts that sessions hold this
comes down to one list of reasons, of which the first counts (`Draft.refusal?`).  It looks at the
fields handed over and not at those of the draft, since a session's draft has none.
-/
namespace SqlBuilder

namespace Verb

/-- Whether a statement is none without fields. -/
def needsFields : Verb → Bool
  | insert | insertReturningId | update => true
  | select | delete => false

/-- The word that a statement begins with. -/
def keyword : Verb → String
  | select => "SELECT"
  | insert | insertReturningId => "INSERT"
  | update => "UPDATE"
  | delete => "DELETE"

end Verb

namespace Draft

/-- Why the statement of a draft and of the fields handed over is not sent. -/
def refusal? (d : Draft) (dialect : Dialect) (fields : Fields) (verb : Verb) : Option Error :=
  if d.table = "" then some (.invalidQuery .noTable)
  else if verb.needsFields ∧ fields = [] then some (.invalidQuery (.noFields verb.keyword))
  else if verb = .insertReturningId ∧ dialect.returnsIds = false then
    some (.unsupported verb dialect)
  else none

/-- The reasons by themselves, without their order. -/
theorem isSome_refusal?_iff {d : Draft} {dialect : Dialect} {fields : Fields} {verb : Verb} :
    (d.refusal? dialect fields verb).isSome = true ↔
      d.table = "" ∨ (verb.needsFields = true ∧ fields = []) ∨
        (verb = .insertReturningId ∧ dialect.returnsIds = false) := by
  unfold refusal?
  by_cases htable : d.table = ""
  · simp [htable]
  · by_cases hfields : verb.needsFields = true ∧ fields = []
    · simp [htable, hfields]
    · rw [if_neg htable, if_neg hfields]
      simp [htable, hfields]

/-- Preparing is both steps, one after the other. -/
theorem steps_of_prepare {d : Draft} {dialect : Dialect} {verb : Verb} {p : Prepared}
    (h : d.prepare dialect verb = .ok p) :
    d.check verb = .ok () ∧ d.compile dialect verb = .ok p := by
  unfold prepare at h
  cases hcheck : d.check verb with
  | error e =>
    rw [hcheck] at h
    cases h
  | ok u =>
    rw [hcheck] at h
    exact ⟨rfl, h⟩

theorem check_of_prepare {d : Draft} {dialect : Dialect} {verb : Verb} {p : Prepared}
    (h : d.prepare dialect verb = .ok p) : d.check verb = .ok () :=
  (steps_of_prepare h).1

theorem compile_of_prepare {d : Draft} {dialect : Dialect} {verb : Verb} {p : Prepared}
    (h : d.prepare dialect verb = .ok p) : d.compile dialect verb = .ok p :=
  (steps_of_prepare h).2

/-- What compiling gives, when it gives a statement. -/
theorem eq_of_compile {d : Draft} {dialect : Dialect} {verb : Verb} {p : Prepared}
    (h : d.compile dialect verb = .ok p) : p = ⟨verb, d.sql verb, d.bindings⟩ := by
  unfold compile at h
  split at h
  · cases h
  · exact (Except.ok.inj h).symm

theorem eq_of_prepare {d : Draft} {dialect : Dialect} {verb : Verb} {p : Prepared}
    (h : d.prepare dialect verb = .ok p) : p = ⟨verb, d.sql verb, d.bindings⟩ :=
  eq_of_compile (compile_of_prepare h)

@[simp] theorem table_withFields (d : Draft) (fields : Fields) (verb : Verb) :
    (d.withFields fields verb).table = d.table := by
  cases verb <;> rfl

theorem check_of_no_table {d : Draft} (h : d.table = "") (verb : Verb) :
    d.check verb = .error (.invalidQuery .noTable) := by
  unfold check
  rw [if_pos h]

theorem table_ne_of_check {d : Draft} {verb : Verb} (h : d.check verb = .ok ()) :
    d.table ≠ "" := by
  intro htable
  rw [check_of_no_table htable] at h
  cases h

/-- A check behind the one for a table asks for the fields handed over. -/
theorem Consistent.check_withFields {d : Draft} (h : d.Consistent) (htable : d.table ≠ "")
    (fields : Fields) (verb : Verb) :
    (d.withFields fields verb).check verb =
      if verb.needsFields ∧ fields = [] then .error (.invalidQuery (.noFields verb.keyword))
      else .ok () := by
  have hinserted : (d.addInserted fields).inserted = fields.map Prod.fst := by
    rw [addInserted, h.inserted_eq, List.nil_append]
  have hupdated : (d.addUpdated fields).updated = fields.map Prod.fst := by
    rw [addUpdated, h.updated_eq, List.nil_append]
  unfold check
  rw [table_withFields, if_neg htable]
  cases verb with
  | select | delete => rfl
  | insert | insertReturningId =>
    simp only [withFields, hinserted, List.map_eq_nil_iff, Verb.needsFields, true_and]
    rfl
  | update =>
    simp only [withFields, hupdated, List.map_eq_nil_iff, Verb.needsFields, true_and]
    rfl

/-- **Preparing gives the statement unless there is a reason to refuse it.** -/
theorem Consistent.prepare_withFields {d : Draft} (h : d.Consistent) (dialect : Dialect)
    (fields : Fields) (verb : Verb) :
    (d.withFields fields verb).prepare dialect verb =
      match d.refusal? dialect fields verb with
      | some e => .error e
      | none => .ok ⟨verb, (d.withFields fields verb).sql verb, (d.withFields fields verb).bindings⟩ := by
  unfold prepare refusal?
  by_cases htable : d.table = ""
  · rw [check_of_no_table (by rw [table_withFields, htable]), if_pos htable]
    rfl
  · rw [h.check_withFields htable, if_neg htable]
    split
    · rfl
    · show (d.withFields fields verb).compile dialect verb = _
      unfold compile
      split <;> rfl

theorem withFields_nil (d : Draft) (verb : Verb) : d.withFields [] verb = d := by
  obtain ⟨table, selected, inserted, updated, joins, conditions, bindings⟩ := d
  cases verb with
  | select | delete => rfl
  | insert | insertReturningId =>
    show Draft.mk table selected (inserted ++ []) updated joins conditions bindings = _
    rw [List.append_nil]
  | update =>
    show Draft.mk table selected inserted (updated ++ []) joins conditions bindings = _
    rw [List.append_nil]

/-- What a session could insert or update is nothing, as long as no fields are handed over. -/
theorem Consistent.prepare_of_needsFields {d : Draft} (h : d.Consistent) (dialect : Dialect)
    {verb : Verb} (hverb : verb.needsFields = true) :
    ∃ problem, d.prepare dialect verb = .error (.invalidQuery problem) := by
  have hprepare := h.prepare_withFields dialect [] verb
  rw [withFields_nil] at hprepare
  rw [hprepare, refusal?]
  by_cases htable : d.table = ""
  · exact ⟨.noTable, by rw [if_pos htable]⟩
  · exact ⟨.noFields verb.keyword, by rw [if_neg htable, if_pos ⟨hverb, rfl⟩]⟩

end Draft

end SqlBuilder
