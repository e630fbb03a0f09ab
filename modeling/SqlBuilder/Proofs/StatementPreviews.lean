import SqlBuilder.Proofs.FirstFailures
import SqlBuilder.Proofs.StatementCalls

/-!
# Previews keep their word

There are two ways to run the statement that a session has in progress.  Either a terminal operation
takes the draft out, prepares it and sends what it gets; or the statement is previewed, which prepares
the draft where it stands, and sent afterwards with `execute`, which goes by the kind of the statement
alone.

An operation that hands over no fields prepares the very draft that a preview prepares.  So a preview
**foretells** it: the preview gives a statement exactly if the operation makes the call of this
statement, and it gives an error exactly if the operation is refused with it (`preview_eq_ok_iff`,
`preview_eq_error_iff`).  Sending the previewed statement makes the same call, and what comes of it
differs in the wrapping of the answer and in the draft, which a terminal operation takes with it.
-/
namespace SqlBuilder

/-- Statements of one kind with the same call are the same. -/
theorem Prepared.eq_of_call_eq {p q : Prepared} (hverb : p.verb = q.verb) (h : p.call = q.call) :
    p = q := by
  obtain ⟨verb, sql, bindings⟩ := p
  obtain ⟨verb', sql', bindings'⟩ := q
  cases hverb
  cases verb with
  | select | insertReturningId =>
    obtain ⟨rfl, rfl⟩ := Call.fetchAll.inj h
    rfl
  | insert | update | delete =>
    obtain ⟨rfl, rfl⟩ := Call.execute.inj h
    rfl

namespace Session

variable {α β σ : Type}

theorem verb_of_preview {s : Session σ} {verb : Verb} {p : Prepared}
    (h : s.preview verb = .ok p) : p.verb = verb := by
  rw [Draft.eq_of_prepare h]

/-! ## What a preview foretells -/

section Foretold

variable (s : Session σ) {operation : Operation} {verb : Verb} (hverb : operation.verb? = some verb)
  (hfields : operation.fields = [])
include hverb hfields

/-- An operation that hands over no fields prepares the draft as it stands. -/
theorem plan_of_preview :
    ∃ send : Prepared → Plan Outcome,
      (∀ sql bindings, (send ⟨verb, sql, bindings⟩).Sends ⟨verb, sql, bindings⟩) ∧
      s.draft.plan s.dialect operation = .ofExcept (s.preview verb) send := by
  obtain ⟨send, hsend, hplan⟩ := s.draft.plan_of_terminal s.dialect hverb
  rw [hfields, Draft.withFields_nil] at hplan
  exact ⟨send, hsend, hplan⟩

theorem sends_of_preview {p : Prepared} (h : s.preview verb = .ok p) :
    (s.draft.plan s.dialect operation).Sends p := by
  obtain ⟨send, hsend, hplan⟩ := plan_of_preview s hverb hfields
  rw [hplan, h, Draft.eq_of_prepare h]
  exact hsend _ _

theorem calls_of_preview {p : Prepared} (h : s.preview verb = .ok p) :
    s.calls [operation] = [p.call] := by
  rw [calls, (s.exchanges_of_sends (sends_of_preview s hverb hfields h)).1]
  rfl

/-- Sending the previewed statement makes the same call, and so it gets the same reply. -/
theorem exchanges_of_preview {p : Prepared} (h : s.preview verb = .ok p) :
    s.exchanges [.execute p] = s.exchanges [operation] := by
  have hexecuted : (s.draft.plan s.dialect (.execute p)).Sends p := p.execution_sends.andThen _
  rw [(s.exchanges_of_sends (sends_of_preview s hverb hfields h)).1,
    (s.exchanges_of_sends hexecuted).1]

theorem refused_of_preview {e : Error} (h : s.preview verb = .error e) :
    s.calls [operation] = [] ∧ (s.perform operation).1 = .error e := by
  obtain ⟨send, -, hplan⟩ := plan_of_preview s hverb hfields
  rw [h] at hplan
  obtain ⟨hnone, hrefused⟩ := s.exchanges_of_settled hplan
  exact ⟨by rw [calls, hnone, List.map_nil], hrefused⟩

/-- **The statement of a preview is the one that is sent.** -/
theorem preview_eq_ok_iff {p : Prepared} :
    s.preview verb = .ok p ↔ p.verb = verb ∧ s.calls [operation] = [p.call] := by
  constructor
  · exact fun h => ⟨verb_of_preview h, calls_of_preview s hverb hfields h⟩
  · rintro ⟨hp, hcalls⟩
    cases hpreview : s.preview verb with
    | ok q =>
      rw [calls_of_preview s hverb hfields hpreview] at hcalls
      have hq := verb_of_preview hpreview
      rw [Prepared.eq_of_call_eq (hq.trans hp.symm) (List.singleton_inj.mp hcalls)]
    | error e =>
      rw [(refused_of_preview s hverb hfields hpreview).1] at hcalls
      cases hcalls

/-- **The error of a preview is the one with which the statement is refused.** -/
theorem preview_eq_error_iff {e : Error} :
    s.preview verb = .error e ↔ (s.perform operation).1 = .error e ∧ s.calls [operation] = [] := by
  constructor
  · exact fun h => (refused_of_preview s hverb hfields h).symm
  · rintro ⟨hrefused, hcalls⟩
    cases hpreview : s.preview verb with
    | ok q =>
      rw [calls_of_preview s hverb hfields hpreview] at hcalls
      cases hcalls
    | error other =>
      rw [(refused_of_preview s hverb hfields hpreview).2] at hrefused
      rw [Except.error.inj hrefused]

end Foretold

/-! ## Sending what was previewed -/

theorem run_andThen (s : Session σ) (plan : Plan α) (next : α → Except Error β) :
    s.run (plan.andThen next) = ((s.run plan).1.bind next, (s.run plan).2) := by
  unfold run
  rw [Plan.run_andThen]

theorem execute_of_select (s : Session σ) {p : Prepared} (hp : p.verb = .select) :
    s.execute p = ((s.run p.rows).1.map .rows, (s.run p.rows).2) := by
  unfold execute Prepared.execution
  rw [hp, except_map_eq_bind]
  exact s.run_andThen p.rows _

theorem execute_of_delete (s : Session σ) {p : Prepared} (hp : p.verb = .delete) :
    s.execute p = ((s.run p.affected).1.map .success, (s.run p.affected).2) := by
  unfold execute Prepared.execution
  rw [hp, except_map_eq_bind]
  exact s.run_andThen p.affected _

theorem get_of_preview {s : Session σ} {p : Prepared} (h : s.preview .select = .ok p) :
    s.get = ((s.run p.rows).1, (s.run p.rows).2.reset) := by
  have hfetch : s.draft.fetch s.dialect = p.rows := by
    unfold Draft.fetch
    rw [show s.draft.prepare s.dialect .select = .ok p from h]
    rfl
  rw [get, hfetch]
  rfl

theorem delete_of_preview {s : Session σ} {p : Prepared} (h : s.preview .delete = .ok p) :
    s.delete = ((s.run p.affected).1.map fun _ => true, (s.run p.affected).2.reset) := by
  have hremove : s.draft.remove s.dialect = p.affected.andThen fun _ => .ok true := by
    unfold Draft.remove
    rw [show s.draft.prepare s.dialect .delete = .ok p from h]
    rfl
  rw [delete, hremove, run_andThen, except_map_eq_bind]
  rfl

/-- **Previews, terminal operations and `execute` agree.**  For a read, the preview gives a statement
exactly if `get` makes the one call that fetches its rows, and an error exactly if `get` gives this
error without a call.  Sending the previewed statement makes the same call and gives the same rows or
the same error, and the session is then as `get` leaves it but for the draft, which stays.  The same
holds of a deletion, where the answer of `execute` also has the number of rows.  The preview itself
changes nothing. -/
theorem preview_execute_agree (s : Session σ) :
    (∀ p, s.preview .select = .ok p ↔
      p.verb = .select ∧ s.calls [.get] = [.fetchAll p.sql p.bindings]) ∧
    (∀ e, s.preview .select = .error e ↔ s.get.1 = .error e ∧ s.calls [.get] = []) ∧
    (∀ p, s.preview .select = .ok p →
      s.exchanges [.execute p] = s.exchanges [.get] ∧
      (s.execute p).1 = s.get.1.map .rows ∧
      s.get.2 = (s.execute p).2.reset ∧ (s.execute p).2.draft = s.draft) ∧
    (∀ p, s.preview .delete = .ok p ↔
      p.verb = .delete ∧ s.calls [.delete] = [.execute p.sql p.bindings]) ∧
    (∀ e, s.preview .delete = .error e ↔ s.delete.1 = .error e ∧ s.calls [.delete] = []) ∧
    (∀ p, s.preview .delete = .ok p →
      s.exchanges [.execute p] = s.exchanges [.delete] ∧
      (∃ counted : Except Error Nat, (s.execute p).1 = counted.map .success ∧
        s.delete.1 = counted.map fun _ => true) ∧
      s.delete.2 = (s.execute p).2.reset ∧ (s.execute p).2.draft = s.draft) ∧
    (∀ verb, (s.perform (.preview verb)).2 = s) := by
  have hcall : ∀ p : Prepared, p.verb = .select → p.call = .fetchAll p.sql p.bindings := by
    rintro ⟨verb, sql, bindings⟩ rfl
    rfl
  have hcall' : ∀ p : Prepared, p.verb = .delete → p.call = .execute p.sql p.bindings := by
    rintro ⟨verb, sql, bindings⟩ rfl
    rfl
  have hget : Operation.get.verb? = some .select := rfl
  have hdelete : Operation.delete.verb? = some .delete := rfl
  refine ⟨fun p => ?_, fun e => ?_, fun p h => ?_, fun p => ?_, fun e => ?_, fun p h => ?_,
    fun verb => rfl⟩
  · rw [s.preview_eq_ok_iff hget rfl]
    exact and_congr_right fun hp => by rw [hcall p hp]
  · rw [s.preview_eq_error_iff hget rfl]
    exact and_congr_left' except_map_eq_error_iff
  · rw [s.exchanges_of_preview hget rfl h, s.execute_of_select (verb_of_preview h),
      get_of_preview h]
    exact ⟨rfl, rfl, rfl, rfl⟩
  · rw [s.preview_eq_ok_iff hdelete rfl]
    exact and_congr_right fun hp => by rw [hcall' p hp]
  · rw [s.preview_eq_error_iff hdelete rfl]
    exact and_congr_left' except_map_eq_error_iff
  · rw [s.exchanges_of_preview hdelete rfl h, s.execute_of_delete (verb_of_preview h),
      delete_of_preview h]
    exact ⟨rfl, ⟨_, rfl, rfl⟩, rfl, rfl⟩

/-- A read whose call fails.  It is foretold by its preview, and sending the previewed statement fails
in the same way. -/
theorem preview_of_failing_read :
    let s := ((Session.new (Scripted.backend .postgres)
      { Scripted.initial with failure := some (.database .poolClosed) }).performAll
        [.edit (.table "users"), .edit (.filter ⟨"users.id", .equal, .int32 5, .and⟩)]).2
    let sql := "SELECT * FROM users WHERE users.id = :id"
    let p : Prepared := ⟨.select, sql, Ordered.ofList [(":id", .int32 5)]⟩
    s.preview .select = .ok p ∧ s.calls [.get] = [.fetchAll sql p.bindings] ∧
      s.exchanges [.execute p] = s.exchanges [.get] ∧
      (s.execute p).1 = .error (.queryExecution sql .poolClosed) := by
  intro s sql p
  have hp : s.preview .select = .ok p := rfl
  obtain ⟨hsent, -, hexecuted, -⟩ := s.preview_execute_agree
  obtain ⟨hexchanges, hanswer, -⟩ := hexecuted p hp
  refine ⟨hp, ((hsent p).mp hp).2, hexchanges, hanswer.trans ?_⟩
  rfl

end Session

end SqlBuilder
