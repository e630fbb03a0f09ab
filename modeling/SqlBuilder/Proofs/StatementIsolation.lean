import Mathlib.Data.List.DropRight
import SqlBuilder.Connection.Scripted
import SqlBuilder.Proofs.OperationPlans

/-!
# Statements of one session do not meet

A terminal operation takes the draft with it, so a statement is made of what was said since the last
one and of nothing else.  The draft of a run is the draft of its **pending edits**, those behind the
last terminal operation (`foldl_after_blank`): previews, statements prepared elsewhere and
transaction control do not touch it, and neither does anything that the connection replies.

Since a plan depends on the draft and the dialect alone, two sessions of one dialect with equal
drafts ask the same of their connections.  That is how a statement late in a long run is compared
with the statement of a new session that was only told the pending edits: the calls are equal, and
where no call is made, so is the error.
-/
namespace SqlBuilder

/-- The edits made since the last terminal operation. -/
def Operation.pendingEdits (history : List Operation) : List Draft.Edit :=
  (history.rtakeWhile fun operation => !operation.isTerminal).filterMap Operation.edit?

namespace Draft

/-- What an operation does to pending edits: a terminal one drops them, an edit joins them. -/
theorem pendingEdits_concat (history : List Operation) (operation : Operation) :
    Operation.pendingEdits (history ++ [operation]) =
      if operation.isTerminal then []
      else Operation.pendingEdits history ++ operation.edit?.toList := by
  unfold Operation.pendingEdits
  cases h : operation.isTerminal with
  | true =>
    rw [List.rtakeWhile_concat_neg _ _ _ (by simp [h])]
    rfl
  | false =>
    rw [List.rtakeWhile_concat_pos _ _ _ (by simp [h]), List.filterMap_append]
    cases he : operation.edit? <;> simp [he]

theorem after_eq_foldl (d : Draft) {operation : Operation} (h : operation.isTerminal = false) :
    d.after operation = operation.edit?.toList.foldl edit d := by
  cases he : operation.edit? with
  | none => exact after_of_edit?_eq_none d h he
  | some e =>
    cases operation with
    | edit e' =>
      cases he
      rfl
    | _ => cases he

/-- **The draft of a run is the draft of its pending edits.** -/
theorem foldl_after_blank (history : List Operation) :
    history.foldl after blank = (Operation.pendingEdits history).foldl edit blank := by
  -- From the end of the history, since that is where the pending edits are.
  induction history using List.reverseRecOn with
  | nil => rfl
  | append_singleton history operation ih =>
    rw [List.foldl_append, pendingEdits_concat, ih, List.foldl_cons, List.foldl_nil]
    cases h : operation.isTerminal with
    | true => exact after_of_isTerminal _ h
    | false =>
      rw [after_eq_foldl _ h, if_neg Bool.false_ne_true, List.foldl_append]

/-- A run of edits makes their draft. -/
theorem foldl_after_edits (d : Draft) (edits : List Edit) :
    (edits.map Operation.edit).foldl after d = edits.foldl edit d := by
  rw [List.foldl_map]
  rfl

end Draft

/-! ## What a terminal operation asks of the connection -/

/-- The call that a plan makes. -/
def Plan.call? {α : Type} : Plan α → Option Call
  | .settled _ => none
  | .ask call _ => some call

theorem Plan.map_call_exchanges {α σ : Type} (plan : Plan α) (backend : Backend σ) (state : σ) :
    (plan.exchanges backend state).map Exchange.call = plan.call?.toList := by
  cases plan <;> rfl

/-- A read takes the text of the draft and its bindings.  All that it needs is a table. -/
theorem Draft.prepare_select (d : Draft) (dialect : Dialect) :
    d.prepare dialect .select =
      if d.table = "" then .error (.invalidQuery .noTable)
      else .ok ⟨.select, d.selectSql, d.bindings⟩ := by
  unfold prepare check
  split <;> rfl

theorem Session.calls_singleton {σ : Type} (s : Session σ) (operation : Operation) :
    s.calls [operation] = (s.draft.plan s.dialect operation).call?.toList := by
  rw [Session.calls, Session.exchanges_singleton, Plan.map_call_exchanges]

namespace Session

variable {σ τ : Type}

theorem calls_get (s : Session σ) :
    s.calls [.get] =
      if s.draft.table = "" then [] else [.fetchAll s.draft.selectSql s.draft.bindings] := by
  rw [calls_singleton, Draft.plan, Draft.fetch, Draft.prepare_select]
  split <;> rfl

theorem calls_get_of_table {s : Session σ} (h : s.draft.table ≠ "") :
    s.calls [.get] = [.fetchAll s.draft.selectSql s.draft.bindings] := by
  rw [calls_get, if_neg h]

theorem draft_performAll_edits (s : Session σ) (edits : List Draft.Edit) :
    (s.performAll (edits.map .edit)).2.draft = edits.foldl Draft.edit s.draft := by
  rw [draft_performAll, Draft.foldl_after_edits]

/-- What a session calls depends on its draft and its dialect. -/
theorem calls_congr {s : Session σ} {t : Session τ} (hdraft : s.draft = t.draft)
    (hdialect : s.dialect = t.dialect) (operation : Operation) :
    s.calls [operation] = t.calls [operation] := by
  rw [calls_singleton, calls_singleton, hdraft, hdialect]

/-- What comes of an operation that makes no call depends on them as well. -/
theorem outcome_congr {s : Session σ} {t : Session τ} (hdraft : s.draft = t.draft)
    (hdialect : s.dialect = t.dialect) {operation : Operation} (h : s.calls [operation] = []) :
    (s.perform operation).1 = (t.perform operation).1 := by
  rw [calls_singleton] at h
  rw [perform_eq, perform_eq, ← hdraft, ← hdialect]
  cases hplan : s.draft.plan s.dialect operation with
  | settled outcome => rfl
  | ask call conclude =>
    rw [hplan] at h
    cases h

end Session

/-- A plan that is settled with an error, or that makes a call. -/
def Plan.CallsOrFails {α : Type} : Plan α → Prop
  | .settled outcome => ∃ e, outcome = .error e
  | .ask _ _ => True

theorem Plan.CallsOrFails.andThen {α β : Type} {plan : Plan α} (h : plan.CallsOrFails)
    (next : α → Except Error β) : (plan.andThen next).CallsOrFails := by
  cases plan with
  | settled outcome =>
    obtain ⟨e, rfl⟩ := h
    exact ⟨e, rfl⟩
  | ask call conclude => trivial

theorem Plan.callsOrFails_ofExcept {α β : Type} {plan : β → Plan α} (h : ∀ b, (plan b).CallsOrFails)
    (outcome : Except Error β) : (Plan.ofExcept outcome plan).CallsOrFails := by
  cases outcome with
  | ok b => exact h b
  | error e => exact ⟨e, rfl⟩

/-- A terminal operation makes a call, or its statement is refused. -/
theorem Draft.plan_callsOrFails (d : Draft) (dialect : Dialect) {operation : Operation}
    (h : operation.isTerminal = true) : (d.plan dialect operation).CallsOrFails := by
  have hrows : ∀ p : Prepared, p.rows.CallsOrFails := fun _ => trivial
  have hid : ∀ p : Prepared, p.newId.CallsOrFails := fun _ => trivial
  have haffected : ∀ p : Prepared,
      (p.affected.andThen fun _ => (.ok true : Except Error Bool)).CallsOrFails := fun _ => trivial
  cases operation with
  | get | getAs => exact (Plan.callsOrFails_ofExcept hrows _).andThen _
  | insert | update | delete => exact (Plan.callsOrFails_ofExcept haffected _).andThen _
  | insertReturningId => exact (Plan.callsOrFails_ofExcept hid _).andThen _
  | edit | preview | execute | begin | commit | rollback => cases h

namespace Session

variable {σ τ : Type}

/-- **Each statement stands by itself.**  After any run, a terminal operation leaves the draft
blank, and the call that it makes, or the error with which it is refused, is that of a new session
of the same dialect that was told the pending edits only.  Operations that neither edit nor end a
statement leave the draft as it is. -/
theorem terminal_depends_on_pendingEdits (backend : Backend σ) (connection : σ)
    (answer : (call : Call) → τ → Except Error call.Reply × τ) (other : τ)
    (history : List Operation) (operation : Operation) :
    let s := ((Session.new backend connection).performAll history).2
    let fresh := ((Session.new ⟨backend.dialect, answer⟩ other).performAll
      ((Operation.pendingEdits history).map Operation.edit)).2
    (operation.isTerminal = true →
      (s.perform operation).2.draft = .blank ∧
      ((∃ call, s.calls [operation] = [call] ∧ fresh.calls [operation] = [call]) ∨
        (∃ e, s.calls [operation] = [] ∧ fresh.calls [operation] = [] ∧
          (s.perform operation).1 = .error e ∧ (fresh.perform operation).1 = .error e))) ∧
    (operation.isTerminal = false → operation.edit? = none →
      (s.perform operation).2.draft = s.draft) := by
  intro s fresh
  have hdraft : fresh.draft = s.draft := by
    show (Session.performAll _ _).2.draft = (Session.performAll _ _).2.draft
    rw [draft_performAll, draft_performAll, Draft.foldl_after_edits]
    exact (Draft.foldl_after_blank history).symm
  have hdialect : fresh.dialect = s.dialect := by
    show (Session.performAll _ _).2.dialect = (Session.performAll _ _).2.dialect
    rw [dialect_performAll, dialect_performAll]
    rfl
  -- With one draft and one dialect, both sessions carry out the same plan.
  refine ⟨fun hterminal => ⟨?_, ?_⟩, fun hterminal hedit => ?_⟩
  · rw [draft_perform, Draft.after_of_isTerminal _ hterminal]
  · have hplanned := s.draft.plan_callsOrFails s.dialect hterminal
    rw [calls_singleton, calls_singleton, perform_eq s, perform_eq fresh, hdraft, hdialect]
    cases hplan : s.draft.plan s.dialect operation with
    | settled outcome =>
      rw [hplan] at hplanned
      obtain ⟨e, rfl⟩ := hplanned
      exact .inr ⟨e, rfl, rfl, rfl, rfl⟩
    | ask call conclude => exact .inl ⟨call, rfl, rfl⟩
  · rw [draft_perform, Draft.after_of_edit?_eq_none _ hterminal hedit]

/-- A failed statement leaves nothing to the next: neither its join nor its condition comes back. -/
theorem next_statement_after_failure :
    let s := ((Session.new (Scripted.backend .postgres)
      { Scripted.initial with failure := some (.database .poolClosed) }).performAll
        [.edit (.table "users"),
          .edit (.join ⟨.inner, "orders", "orders.user_id", .equal, "users.id"⟩),
          .edit (.filter ⟨"users.id", .equal, .int32 1, .and⟩), .get,
          .edit (.table "posts"), .preview .select]).2
    (s.perform .get).2.draft = .blank ∧
      s.calls [.get] = [.fetchAll "SELECT * FROM posts" Ordered.empty] ∧
      (s.perform .begin).2.draft = s.draft := by
  intro s
  have hisolated := terminal_depends_on_pendingEdits (Scripted.backend .postgres)
    { Scripted.initial with failure := some (.database .poolClosed) }
    (Scripted.backend .postgres).answer Scripted.initial
    [.edit (.table "users"),
      .edit (.join ⟨.inner, "orders", "orders.user_id", .equal, "users.id"⟩),
      .edit (.filter ⟨"users.id", .equal, .int32 1, .and⟩), .get,
      .edit (.table "posts"), .preview .select]
  obtain ⟨hblank, ⟨call, hcall, hfresh⟩ | ⟨e, -, hnone, -⟩⟩ := (hisolated .get).1 rfl
  · refine ⟨hblank, hcall.trans ?_, (hisolated .begin).2 rfl rfl⟩
    rw [← hfresh]
    rfl
  · cases hnone

end Session

end SqlBuilder
