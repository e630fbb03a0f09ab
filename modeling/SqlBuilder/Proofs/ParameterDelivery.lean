import SqlBuilder.Connection.Scripted
import SqlBuilder.Proofs.StatementPieces
import SqlBuilder.Proofs.StatementRefusals

/-!
# Every parameter gets its value

The SQL of a statement is written by one function and read by another one, and what they agree on is
only the text.  Here both are brought together with the bindings: a statement that a session
prepares, with closed texts and columns that values can be bound to, is rewritten without an error.
Its fragments come through untouched, its markers are numbered in the order of the text, and behind
each of them is the value that was last written to the parameter in its place.

A condition and a field whose columns share a parameter share its value too: the later one wins, for
both places in the text.
-/
namespace SqlBuilder

namespace Draft

theorem Consistent.parameterColumns_withFields {d : Draft} (h : d.Consistent) (fields : Fields)
    (verb : Verb) :
    (d.withFields fields verb).parameterColumns verb = d.shownColumns fields verb := by
  cases verb with
  | select | delete => rfl
  | insert | insertReturningId =>
    show d.inserted ++ fields.map Prod.fst = fields.map Prod.fst
    rw [h.inserted_eq, List.nil_append]
  | update =>
    show (d.updated ++ fields.map Prod.fst) ++ d.conditions.map Condition.column =
      fields.map Prod.fst ++ d.conditions.map Condition.column
    rw [h.updated_eq, List.nil_append]

/-- The values of the parameters that a statement shows: each is the one that was last written. -/
theorem exists_values_of_shownColumns (d : Draft) (fields : Fields) (verb : Verb) :
    ∃ values : List Value, values.map some = (d.shownColumns fields verb).map fun column =>
      (d.writes fields verb).reverse.lookup (Column.parameter column) := by
  have hall : ∀ columns : List String, (∀ column ∈ columns, ∃ value,
      (d.writes fields verb).reverse.lookup (Column.parameter column) = some value) →
      ∃ values : List Value, values.map some = columns.map fun column =>
        (d.writes fields verb).reverse.lookup (Column.parameter column) := by
    intro columns
    induction columns with
    | nil => exact fun _ => ⟨[], rfl⟩
    | cons column columns ih =>
      intro h
      obtain ⟨value, hvalue⟩ := h column List.mem_cons_self
      obtain ⟨values, hvalues⟩ := ih fun other ho => h other (List.mem_cons_of_mem _ ho)
      exact ⟨value :: values, by rw [List.map_cons, List.map_cons, hvalue, hvalues]⟩
  exact hall _ fun _ hcolumn => exists_lookup_writes hcolumn

end Draft

namespace Session

variable {σ : Type}

/-- **Every parameter gets its value.**  Take a statement that a session prepares after any run,
with any fields handed over.  If the caller's texts in it are closed and its columns can have values
bound to them, then every dialect rewrites it: the text is that of its pieces with markers for the
parameters, and the values are those last written to the parameters, one for each column shown. -/
theorem positional_prepared (backend : Backend σ) (connection : σ) (operations : List Operation)
    (fields : Fields) (verb : Verb) (dialect : Dialect) {d : Draft} {p : Prepared}
    (hd : d = ((Session.new backend connection).performAll operations).2.draft)
    (hp : (d.withFields fields verb).prepare backend.dialect verb = .ok p)
    (hclosed : ∀ text ∈ (d.withFields fields verb).texts verb, Positional.isClosed text = true)
    (hbindable : ∀ column ∈ d.shownColumns fields verb, Column.isBindable column = true) :
    ∃ values : List Value,
      p.sql = Piece.named ((d.withFields fields verb).pieces verb) ∧
      positional dialect p.bindings p.sql =
        .ok ⟨Piece.marked dialect 1 ((d.withFields fields verb).pieces verb), values⟩ ∧
      values.map some = (d.shownColumns fields verb).map fun column =>
        (d.writes fields verb).reverse.lookup (Column.parameter column) := by
  have hconsistent : d.Consistent := by
    rw [hd]
    exact Draft.consistent_performAll Draft.consistent_blank operations
  obtain ⟨values, hvalues⟩ := d.exists_values_of_shownColumns fields verb
  -- A consistent draft has no fields of its own, so its text shows those handed over alone.
  have hcolumns := hconsistent.parameterColumns_withFields fields verb
  have hlegible : Piece.isLegible ((d.withFields fields verb).pieces verb) = true :=
    Draft.isLegible_pieces hclosed (hcolumns ▸ hbindable)
  have hbound : (Piece.columns ((d.withFields fields verb).pieces verb)).map
      (fun column => (d.withFields fields verb).bindings.get? (Column.parameter column)) =
        values.map some := by
    rw [Draft.columns_pieces, hcolumns, hvalues]
    exact List.map_congr_left fun column _ => hconsistent.get?_withFields fields verb _
  rw [Draft.eq_of_prepare hp]
  refine ⟨values, (Draft.named_pieces _ verb).symm, ?_, hvalues⟩
  show positional dialect (d.withFields fields verb).bindings
    ((d.withFields fields verb).sql verb) = _
  rw [← Draft.named_pieces]
  exact Piece.positional_named dialect _ hlegible hbound

/-- A quoted table with a colon in its name, a cast, and a field that shares its parameter with a
condition: the later value of the two is sent for both. -/
theorem positional_update_of_shared_parameter :
    let edits : List Operation := [.edit (.table "\"odd:name\""),
      .edit (.filter ⟨"t.\"first name\"", .equal, .text "Ada", .and⟩),
      .edit (.filter ⟨"seen::date", .greater, .text "2024-01-01", .or⟩)]
    let d := ((Session.new (Scripted.backend .postgres) Scripted.initial).performAll
      (.get :: edits)).2.draft
    let fields : Fields := [("\"first name\"", .text "Grace")]
    positional .postgres (d.withFields fields .update).bindings
        ((d.withFields fields .update).sql .update) =
      .ok ⟨"UPDATE \"odd:name\" SET \"first name\" = $1 WHERE t.\"first name\" = $2 OR " ++
        "seen::date > $3", [.text "Grace", .text "Grace", .text "2024-01-01"]⟩ := by
  intro edits d fields
  obtain ⟨values, -, hpositional, hvalues⟩ := positional_prepared (Scripted.backend .postgres)
    Scripted.initial (.get :: edits) fields .update .postgres (d := d) rfl
    (p := ⟨.update, (d.withFields fields .update).sql .update,
      (d.withFields fields .update).bindings⟩) rfl (by decide) (by decide)
  have hexpected : values.map some =
      [Value.text "Grace", .text "Grace", .text "2024-01-01"].map some := hvalues
  rw [(List.map_inj_right fun _ _ => Option.some.inj).mp hexpected] at hpositional
  exact hpositional

end Session

end SqlBuilder
