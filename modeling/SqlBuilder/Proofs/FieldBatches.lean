import SqlBuilder.Proofs.DraftBindings

/-!
# Fields in batches

The fields of an insert or an update are bound in two moves.  They make a map of their own, in
which fields that share a parameter have met already, and that map is written over the bindings
that were there.  The outcome is that of binding the fields one by one, since a parameter that is
written again stays in its place (`Fields.boundInto_insertAll`, `Bindings.extend_ofFields`).  So
it does not matter where one batch of fields ends and the next begins, neither to the bindings nor
to the columns (`Draft.addInserted_addInserted`, `Draft.addUpdated_addUpdated`).
-/
namespace SqlBuilder

/-- What bindings become when fields are bound. -/
structure Fields.BoundInto (fields : Fields) (old new : Bindings) : Prop where
  /-- The fields are bound one at a time, in order. -/
  one_by_one : new =
    fields.foldl (fun bound field => bound.insert (Column.parameter field.1) field.2) old
  /-- Parameters that were there keep their places; those that are new follow in the order in which
  each first occurs. -/
  keys_eq : new.keys = old.keys ++
    ((fields.map fun field => Column.parameter field.1).filter (· ∉ old.keys)).eraseDups
  nodup_keys : new.keys.Nodup
  /-- A parameter holds the value of the last field that has it. -/
  get?_of_last : ∀ before column value after, fields = before ++ (column, value) :: after →
    (∀ field ∈ after, Column.parameter field.1 ≠ Column.parameter column) →
    new.get? (Column.parameter column) = some value
  /-- A parameter that no field has holds what it held. -/
  get?_of_no_field : ∀ parameter, (∀ field ∈ fields, Column.parameter field.1 ≠ parameter) →
    new.get? parameter = old.get? parameter

namespace Fields

theorem writes_append (fields more : Fields) :
    writes (fields ++ more) = fields.writes ++ more.writes := List.map_append

theorem map_fst_writes (fields : Fields) :
    fields.writes.map Prod.fst = fields.map fun field => Column.parameter field.1 :=
  List.map_map

theorem not_mem_writes {fields : Fields} {parameter : String}
    (h : ∀ field ∈ fields, Column.parameter field.1 ≠ parameter) :
    parameter ∉ fields.writes.map Prod.fst := by
  intro hmem
  rw [map_fst_writes] at hmem
  obtain ⟨field, hfield, he⟩ := List.mem_map.mp hmem
  exact h field hfield he

/-- Binding fields one at a time. -/
theorem boundInto_insertAll (fields : Fields) (old : Bindings) :
    fields.BoundInto old (old.insertAll fields.writes) where
  one_by_one := List.foldl_map
  keys_eq := by rw [Ordered.keys_insertAll_eq_append, map_fst_writes]
  nodup_keys := (old.insertAll fields.writes).nodup
  get?_of_last := by
    rintro before column value after rfl hafter
    have hwrites : writes (before ++ (column, value) :: after) =
        writes before ++ (Column.parameter column, value) :: writes after := writes_append _ _
    rw [hwrites]
    exact old.get?_insertAll_of_last _ _ _ (not_mem_writes hafter)
  get?_of_no_field := by
    intro parameter hno
    exact old.get?_insertAll_of_not_mem (not_mem_writes hno)

end Fields

namespace Bindings

/-- The map that the fields make of their own leaves no trace. -/
theorem extend_ofFields (old : Bindings) (fields : Fields) :
    old.extend (ofFields fields) = old.insertAll fields.writes :=
  Ordered.extend_ofList old fields.writes

theorem extend_ofFields_append (old : Bindings) (fields more : Fields) :
    old.extend (ofFields (fields ++ more)) =
      (old.extend (ofFields fields)).extend (ofFields more) := by
  rw [extend_ofFields, extend_ofFields, extend_ofFields, Fields.writes_append,
    Ordered.insertAll_append]

theorem ofFields_append (fields more : Fields) :
    ofFields (fields ++ more) = (ofFields fields).extend (ofFields more) := by
  rw [ofFields, List.map_append, Ordered.ofList_append]
  rfl

end Bindings

namespace Draft

variable (d : Draft)

theorem addInserted_nil : d.addInserted [] = d := by
  simp [addInserted, Bindings.extend_ofFields, Fields.writes]

theorem addUpdated_nil : d.addUpdated [] = d := by
  simp [addUpdated, Bindings.extend_ofFields, Fields.writes]

theorem addInserted_addInserted (fields more : Fields) :
    (d.addInserted fields).addInserted more = d.addInserted (fields ++ more) := by
  simp only [addInserted, Bindings.extend_ofFields_append, List.map_append, List.append_assoc]

theorem addUpdated_addUpdated (fields more : Fields) :
    (d.addUpdated fields).addUpdated more = d.addUpdated (fields ++ more) := by
  simp only [addUpdated, Bindings.extend_ofFields_append, List.map_append, List.append_assoc]

/-- Where two batches may be made one, any number may, and no batch at all is an empty one. -/
theorem foldl_batches {add : Draft → Fields → Draft} (hempty : ∀ d, add d [] = d)
    (hadd : ∀ d fields more, add (add d fields) more = add d (fields ++ more))
    (batches : List Fields) : batches.foldl add d = add d batches.flatten := by
  induction batches generalizing d with
  | nil => exact (hempty d).symm
  | cons fields batches ih => rw [List.foldl_cons, ih, hadd, List.flatten_cons]

/-- **Fields may come in any batches.**  Adding fields and then more is adding all of them, and so
it is for any number of batches, down to one field each.  The columns grow by those of the fields,
the fields are bound one by one, and nothing else changes. -/
theorem fields_in_batches (fields more : Fields) :
    (d.addInserted fields).addInserted more = d.addInserted (fields ++ more) ∧
    (d.addUpdated fields).addUpdated more = d.addUpdated (fields ++ more) ∧
    (∀ batches : List Fields, batches.foldl addInserted d = d.addInserted batches.flatten ∧
      batches.foldl addUpdated d = d.addUpdated batches.flatten) ∧
    fields.BoundInto d.bindings (d.addInserted fields).bindings ∧
    fields.BoundInto d.bindings (d.addUpdated fields).bindings ∧
    d.addInserted fields = { d with
      inserted := d.inserted ++ fields.map Prod.fst
      bindings := (d.addInserted fields).bindings } ∧
    d.addUpdated fields = { d with
      updated := d.updated ++ fields.map Prod.fst
      bindings := (d.addUpdated fields).bindings } ∧
    Bindings.ofFields (fields ++ more) =
      (Bindings.ofFields fields).extend (Bindings.ofFields more) := by
  have hbound : fields.BoundInto d.bindings (d.bindings.extend (Bindings.ofFields fields)) := by
    rw [Bindings.extend_ofFields]
    exact fields.boundInto_insertAll d.bindings
  refine ⟨d.addInserted_addInserted fields more, d.addUpdated_addUpdated fields more,
    fun batches => ⟨?_, ?_⟩, hbound, hbound, rfl, rfl, Bindings.ofFields_append fields more⟩
  · exact d.foldl_batches addInserted_nil addInserted_addInserted batches
  · exact d.foldl_batches addUpdated_nil addUpdated_addUpdated batches

/-- Columns that share a parameter, in one batch, in two, and with a condition from before. -/
theorem batches_of_shared_parameters :
    let d := blank.edit (.filter ⟨"u.id", .equal, .int32 1, .and⟩)
    let fields : Fields := [("users.name", .text "a"), ("id", .int32 2), ("\"name\"", .text "b")]
    let more : Fields := [("age", .int32 3), ("t.name", .text "c")]
    (d.addUpdated fields).bindings.get? ":name" = some (.text "b") ∧
      ((d.addUpdated fields).addUpdated more).bindings.entries =
        [(":id", .int32 2), (":name", .text "c"), (":age", .int32 3)] ∧
      ((d.addUpdated fields).addUpdated more).updated =
        ["users.name", "id", "\"name\"", "age", "t.name"] := by
  intro d fields more
  obtain ⟨-, htogether, -, -, hbound, -⟩ := d.fields_in_batches fields more
  have hlast : (d.addUpdated fields).bindings.get? (Column.parameter "\"name\"") =
      some (.text "b") :=
    hbound.get?_of_last [("users.name", .text "a"), ("id", .int32 2)] _ _ [] rfl nofun
  refine ⟨hlast, ?_, ?_⟩
  · rw [htogether]
    rfl
  · rw [htogether]
    rfl

end Draft

end SqlBuilder
