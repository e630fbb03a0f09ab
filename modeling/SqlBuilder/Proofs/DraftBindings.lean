import SqlBuilder.Proofs.OperationPlans
import SqlBuilder.Proofs.OrderedMaps

/-!
# What the bindings of a draft hold

The bindings of a draft are kept beside its conditions and fields.  In the drafts that sessions
hold they say nothing new: such a draft has no fields, and its bindings are what its conditions
write, one after the other (`Draft.Consistent`).  Blank drafts are of this kind, every operation
keeps them so, and hence every draft of every run is (`consistent_performAll`).

The statement of a terminal operation binds its fields on top of that.  `Draft.writes` lists all of
it in the order of time, so what a parameter holds is what the last write to it says
(`get?_withFields`).
-/
namespace SqlBuilder

/-- What a condition binds. -/
def Condition.write (c : Condition) : String × Value := (Column.parameter c.column, c.value)

/-- What fields bind, one after the other. -/
def Fields.writes (fields : Fields) : List (String × Value) :=
  fields.map fun field => (Column.parameter field.1, field.2)

namespace Draft

/-- A draft without fields, whose bindings are those of its conditions. -/
structure Consistent (d : Draft) : Prop where
  inserted_eq : d.inserted = []
  updated_eq : d.updated = []
  bindings_eq : d.bindings = Ordered.ofList (d.conditions.map Condition.write)

theorem consistent_blank : blank.Consistent := ⟨rfl, rfl, rfl⟩

theorem Consistent.edit {d : Draft} (h : d.Consistent) (e : Edit) : (d.edit e).Consistent := by
  cases e with
  | table name => exact ⟨h.inserted_eq, h.updated_eq, h.bindings_eq⟩
  | select columns => exact ⟨h.inserted_eq, h.updated_eq, h.bindings_eq⟩
  | join j => exact ⟨h.inserted_eq, h.updated_eq, h.bindings_eq⟩
  | filter c =>
    refine ⟨h.inserted_eq, h.updated_eq, ?_⟩
    show d.bindings.insert (Column.parameter c.column) c.value =
      Ordered.ofList ((d.conditions ++ [c]).map Condition.write)
    rw [h.bindings_eq, List.map_append, Ordered.ofList, Ordered.ofList, Ordered.insertAll_append]
    rfl

theorem Consistent.after {d : Draft} (h : d.Consistent) (operation : Operation) :
    (d.after operation).Consistent := by
  cases hterminal : operation.isTerminal with
  | true =>
    rw [after_of_isTerminal d hterminal]
    exact consistent_blank
  | false =>
    cases hedit : operation.edit? with
    | none =>
      rw [after_of_edit?_eq_none d hterminal hedit]
      exact h
    | some e =>
      cases operation with
      | edit e' => exact h.edit e'
      | _ => cases hedit

/-- **Every draft of every run is consistent.** -/
theorem consistent_performAll {σ : Type} {s : Session σ} (h : s.draft.Consistent)
    (operations : List Operation) : (s.performAll operations).2.draft.Consistent := by
  induction operations generalizing s with
  | nil => exact h
  | cons operation rest ih =>
    rw [Session.performAll_cons]
    refine ih ?_
    rw [Session.draft_perform]
    exact h.after operation

/-! ## The draft of a terminal operation -/

/-- The draft with the fields that an operation hands over for a statement of the given kind. -/
def withFields (d : Draft) (fields : Fields) : Verb → Draft
  | .insert | .insertReturningId => d.addInserted fields
  | .update => d.addUpdated fields
  | .select | .delete => d

/-- What is bound for a statement of the given kind, in the order of time. -/
def writes (d : Draft) (fields : Fields) : Verb → List (String × Value)
  | .insert | .insertReturningId | .update => d.conditions.map Condition.write ++ fields.writes
  | .select | .delete => d.conditions.map Condition.write

/-- The columns whose parameters a statement of the given kind shows, in the order of its text. -/
def shownColumns (d : Draft) (fields : Fields) : Verb → List String
  | .insert | .insertReturningId => fields.map Prod.fst
  | .update => fields.map Prod.fst ++ d.conditions.map Condition.column
  | .select | .delete => d.conditions.map Condition.column

theorem get?_extend_ofFields (d : Draft) (h : d.Consistent) (fields : Fields) (key : String) :
    (d.bindings.extend (Bindings.ofFields fields)).get? key =
      (d.conditions.map Condition.write ++ fields.writes).reverse.lookup key := by
  rw [Ordered.get?_extend, Bindings.ofFields, Ordered.get?_ofList, h.bindings_eq,
    Ordered.get?_ofList, List.reverse_append, List.lookup_append]
  rfl

/-- **A parameter holds what was last written to it.** -/
theorem Consistent.get?_withFields {d : Draft} (h : d.Consistent) (fields : Fields) (verb : Verb)
    (key : String) :
    (d.withFields fields verb).bindings.get? key = (d.writes fields verb).reverse.lookup key := by
  cases verb with
  | insert | insertReturningId | update => exact get?_extend_ofFields d h fields key
  | select | delete =>
    show d.bindings.get? key = (d.conditions.map Condition.write).reverse.lookup key
    rw [h.bindings_eq, Ordered.get?_ofList]

/-- Every parameter that a statement shows has been written to. -/
theorem exists_lookup_writes {d : Draft} {fields : Fields} {verb : Verb} {column : String}
    (h : column ∈ d.shownColumns fields verb) :
    ∃ value, (d.writes fields verb).reverse.lookup (Column.parameter column) = some value := by
  -- A shown column is that of a condition or that of a field, and both are among the writes.
  have hwritten : ∃ write ∈ d.writes fields verb, write.1 = Column.parameter column := by
    have hcondition : column ∈ d.conditions.map Condition.column →
        ∃ write ∈ d.conditions.map Condition.write, write.1 = Column.parameter column := by
      intro hcolumn
      obtain ⟨c, hc, rfl⟩ := List.mem_map.mp hcolumn
      exact ⟨c.write, List.mem_map_of_mem hc, rfl⟩
    have hfield : column ∈ fields.map Prod.fst →
        ∃ write ∈ fields.writes, write.1 = Column.parameter column := by
      intro hcolumn
      obtain ⟨field, hf, rfl⟩ := List.mem_map.mp hcolumn
      exact ⟨_, List.mem_map_of_mem hf, rfl⟩
    cases verb with
    | select | delete => exact hcondition h
    | insert | insertReturningId =>
      obtain ⟨write, hw, he⟩ := hfield h
      exact ⟨write, List.mem_append_right _ hw, he⟩
    | update =>
      rcases List.mem_append.mp h with hf | hc
      · obtain ⟨write, hw, he⟩ := hfield hf
        exact ⟨write, List.mem_append_right _ hw, he⟩
      · obtain ⟨write, hw, he⟩ := hcondition hc
        exact ⟨write, List.mem_append_left _ hw, he⟩
  obtain ⟨write, hw, he⟩ := hwritten
  refine Option.isSome_iff_exists.mp (List.lookup_isSome_iff.mpr ⟨write, ?_, ?_⟩)
  · exact List.mem_reverse.mpr hw
  · exact beq_iff_eq.mpr he.symm

end Draft

end SqlBuilder
