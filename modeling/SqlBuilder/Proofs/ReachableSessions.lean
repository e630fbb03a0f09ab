import SqlBuilder.Connection.Scripted
import SqlBuilder.Proofs.StatementPieces
import SqlBuilder.Proofs.StatementRefusals

/-!
# Sessions that can come about

A session starts blank and is changed by its operations.  Between two operations its owner may also
do something to the connection itself, and a session that is shared is reset when it is handed out
after a breakdown.  `Session.Reachable` is what can come about in these ways, with whatever replies.

No such session holds fields: they come with the operation that sends them, and leave with it.  So
its bindings are those of its conditions, and say nothing that the conditions do not say.  Conditions
on different columns may share a parameter, and then the last of them decides what both stand for.
-/
namespace SqlBuilder

variable {σ : Type}

/-- A session as it can come about. -/
inductive Session.Reachable : Session σ → Prop
  | new (backend : Backend σ) (connection : σ) : Reachable (Session.new backend connection)
  | perform {s : Session σ} (h : Reachable s) (operation : Operation) :
      Reachable (s.perform operation).2
  /-- The owner of the session does something to the connection, or puts another one in its place. -/
  | reconnect {s : Session σ} (h : Reachable s) (backend : Backend σ) (connection : σ) :
      Reachable { s with backend, connection }
  | reset {s : Session σ} (h : Reachable s) : Reachable s.reset

/-- Whatever is done with a session that can come about leads to one. -/
theorem Session.Reachable.performAll {s : Session σ} (hs : s.Reachable)
    (operations : List Operation) : (s.performAll operations).2.Reachable := by
  induction operations generalizing s with
  | nil => exact hs
  | cons operation rest ih =>
    rw [Session.performAll_cons]
    exact ih (hs.perform operation)

/-- The invariant of drafts holds of every session that can come about. -/
theorem Session.Reachable.consistent {s : Session σ} (hs : s.Reachable) : s.draft.Consistent := by
  induction hs with
  | new backend connection => exact Draft.consistent_blank
  | perform _ operation ih =>
    rw [Session.draft_perform]
    exact ih.after operation
  | reconnect _ backend connection ih => exact ih
  | reset _ _ => exact Draft.consistent_blank

/-! ## Conditions that share a parameter -/

namespace Draft

/-- The last condition with a parameter. -/
def lastCondition? (d : Draft) (parameter : String) : Option Condition :=
  (d.conditions.filter fun c => Column.parameter c.column = parameter).getLast?

theorem lookup_writes (conditions : List Condition) (parameter : String) :
    (conditions.map Condition.write).lookup parameter =
      (conditions.find? fun c => Column.parameter c.column = parameter).map Condition.value := by
  induction conditions with
  | nil => rfl
  | cons c rest ih =>
    rw [List.map_cons, Condition.write, List.lookup_cons, List.find?_cons, ih]
    by_cases hc : Column.parameter c.column = parameter
    · subst hc
      simp
    · have hne : (parameter == Column.parameter c.column) = false :=
        beq_false_of_ne fun e => hc e.symm
      simp [hc, hne]

/-- A parameter holds the value of the last condition with it. -/
theorem Consistent.get?_bindings {d : Draft} (h : d.Consistent) (parameter : String) :
    d.bindings.get? parameter = (d.lastCondition? parameter).map Condition.value := by
  rw [h.bindings_eq, Ordered.get?_ofList, ← List.map_reverse, lookup_writes, lastCondition?,
    List.getLast?_filter]

/-- The parameters are bound in the order in which conditions first use them. -/
theorem Consistent.keys_bindings {d : Draft} (h : d.Consistent) :
    d.bindings.keys = (d.conditions.map fun c => Column.parameter c.column).eraseDups := by
  rw [h.bindings_eq, Ordered.keys_ofList, List.map_map]
  rfl

/-- The parameter of every condition has a last condition. -/
theorem exists_lastCondition {d : Draft} {c : Condition} (hc : c ∈ d.conditions) :
    ∃ last ∈ d.conditions, Column.parameter last.column = Column.parameter c.column ∧
      d.lastCondition? (Column.parameter c.column) = some last := by
  have hmem : c ∈ d.conditions.filter
      fun other => Column.parameter other.column = Column.parameter c.column :=
    List.mem_filter.mpr ⟨hc, decide_eq_true rfl⟩
  obtain ⟨last, hlast⟩ := Option.isSome_iff_exists.mp
    (List.getLast?_isSome.mpr (List.ne_nil_of_mem hmem))
  obtain ⟨hin, hparameter⟩ := List.mem_filter.mp (List.mem_of_getLast? hlast)
  exact ⟨last, hin, of_decide_eq_true hparameter, hlast⟩

end Draft

/-- **The bindings of a session are those of its conditions.**  A session holds no fields, and its
bindings are a function of its conditions: their parameters, each once and in the order of first use,
with the value of the last condition that has the parameter.  So a condition is sent with its own
value exactly if the last condition with its parameter has that value too.  As there are no fields,
neither an insert nor an update can be prepared; and every parameter in the text of the conditions is
bound. -/
theorem Session.Reachable.bindings_of_conditions {s : Session σ} (hs : s.Reachable) :
    s.draft.inserted = [] ∧ s.draft.updated = [] ∧
      s.draft.bindings = Ordered.ofList (s.draft.conditions.map Condition.write) ∧
      s.draft.bindings.keys =
        (s.draft.conditions.map fun c => Column.parameter c.column).eraseDups ∧
      (∀ parameter, s.draft.bindings.get? parameter =
        (s.draft.lastCondition? parameter).map Condition.value) ∧
      (∀ c ∈ s.draft.conditions, ∃ last ∈ s.draft.conditions,
        s.draft.lastCondition? (Column.parameter c.column) = some last ∧
        (s.draft.bindings.get? (Column.parameter c.column) = some c.value ↔
          last.value = c.value)) ∧
      (∀ verb ∈ [Verb.insert, .insertReturningId, .update],
        ∃ problem, s.preview verb = .error (.invalidQuery problem)) ∧
      Piece.named (Draft.conditionsPieces s.draft.conditions) =
        Draft.conditionsSql s.draft.conditions ∧
      ∀ column ∈ Piece.columns (Draft.conditionsPieces s.draft.conditions),
        ∃ value, s.draft.bindings.get? (Column.parameter column) = some value := by
  have hconsistent := hs.consistent
  have hlast : ∀ c ∈ s.draft.conditions, ∃ last ∈ s.draft.conditions,
      s.draft.lastCondition? (Column.parameter c.column) = some last ∧
      s.draft.bindings.get? (Column.parameter c.column) = some last.value := by
    intro c hc
    obtain ⟨last, hin, -, hlast⟩ := Draft.exists_lastCondition hc
    refine ⟨last, hin, hlast, ?_⟩
    rw [hconsistent.get?_bindings, hlast, Option.map_some]
  refine ⟨hconsistent.inserted_eq, hconsistent.updated_eq, hconsistent.bindings_eq,
    hconsistent.keys_bindings, hconsistent.get?_bindings, ?_, ?_,
    Draft.named_conditionsPieces _, ?_⟩
  · intro c hc
    obtain ⟨last, hin, hfound, hvalue⟩ := hlast c hc
    exact ⟨last, hin, hfound, by rw [hvalue, Option.some.injEq]⟩
  · intro verb hverb
    have hneeds : verb.needsFields = true := by
      simp only [List.mem_cons, List.not_mem_nil, or_false] at hverb
      rcases hverb with rfl | rfl | rfl <;> rfl
    exact hconsistent.prepare_of_needsFields s.dialect hneeds
  · intro column hcolumn
    rw [Draft.columns_conditionsPieces] at hcolumn
    obtain ⟨c, hc, rfl⟩ := List.mem_map.mp hcolumn
    obtain ⟨last, -, -, hvalue⟩ := hlast c hc
    exact ⟨last.value, hvalue⟩

/-- After a statement that failed, three conditions of which two name the same column in two ways. -/
theorem Session.bindings_of_requalified_column :
    let s := ((Session.new (Scripted.backend .mysql)
      { Scripted.initial with failure := some (.database .poolClosed) }).performAll
        [.edit (.table "logs"), .edit (.filter ⟨"day", .equal, .text "today", .and⟩), .delete,
          .edit (.filter ⟨"u.id", .greater, .int32 1, .and⟩),
          .edit (.filter ⟨"name", .like, .text "A%", .and⟩),
          .edit (.filter ⟨"\x60id\x60", .less, .int32 9, .or⟩)]).2
    s.Reachable ∧ s.draft.bindings.keys = [":id", ":name"] ∧
      s.draft.bindings.get? ":id" = some (.int32 9) := by
  intro s
  have hs : s.Reachable := (Session.Reachable.new _ _).performAll _
  obtain ⟨-, -, -, hkeys, hget, -⟩ := hs.bindings_of_conditions
  have hlast : s.draft.lastCondition? ":id" = some ⟨"\x60id\x60", .less, .int32 9, .or⟩ := rfl
  refine ⟨hs, hkeys.trans (by decide), ?_⟩
  rw [hget, hlast, Option.map_some]

end SqlBuilder
