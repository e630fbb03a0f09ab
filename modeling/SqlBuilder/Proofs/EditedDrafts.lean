import Mathlib.Data.List.Basic
import SqlBuilder.Statement.Sql

/-!
# Drafts by their edits

Every edit belongs to one part of a draft: it names the table, or it adds columns, a join or a
condition.  So each part of an edited draft is made of the edits that belong to it, in their order,
and does not show how the others came in between.
-/
namespace SqlBuilder.Draft

namespace Edit

/-- The columns that an edit adds. -/
def columns : Edit → List String
  | select columns => columns
  | _ => []

def join? : Edit → Option Join
  | join j => some j
  | _ => none

def condition? : Edit → Option Condition
  | filter c => some c
  | _ => none

/-- The table that an edit names. -/
def table? : Edit → Option String
  | table name => some name
  | _ => none

/-- Whether an edit adds no part to a draft, so that the next table undoes all that it does. -/
def addsNothing (e : Edit) : Bool :=
  e.columns.isEmpty && e.join?.isNone && e.condition?.isNone

theorem addsNothing_iff {e : Edit} :
    e.addsNothing = true ↔ e.columns = [] ∧ e.join? = none ∧ e.condition? = none := by
  simp only [addsNothing, Bool.and_eq_true, List.isEmpty_iff, Option.isNone_iff_eq_none, and_assoc]

end Edit

/-! ## The parts of an edited draft -/

/-- The table is the one that was named last. -/
theorem table_foldl_edit (d : Draft) (edits : List Edit) :
    (edits.foldl edit d).table = ((edits.filterMap Edit.table?).getLast?).getD d.table := by
  induction edits generalizing d with
  | nil => rfl
  | cons e rest ih =>
    rw [List.foldl_cons, ih]
    cases e with
    | table name =>
      have hnamed : (Edit.table name :: rest).filterMap Edit.table? =
          name :: rest.filterMap Edit.table? := List.filterMap_cons_some rfl
      rw [hnamed, List.getLast?_cons]
      rfl
    | select | filter | join => rfl

/-- A part to whose end every edit adds something or nothing holds what was added, in order. -/
theorem part_foldl_edit {α : Type} (part : Draft → List α) {added : Edit → List α}
    (hedit : ∀ d e, part (d.edit e) = part d ++ added e) (d : Draft) (edits : List Edit) :
    part (edits.foldl edit d) = part d ++ edits.flatMap added := by
  induction edits generalizing d with
  | nil => exact (List.append_nil _).symm
  | cons e rest ih => rw [List.foldl_cons, ih, hedit, List.flatMap_cons, List.append_assoc]

theorem selected_foldl_edit (d : Draft) (edits : List Edit) :
    (edits.foldl edit d).selected = d.selected ++ edits.flatMap Edit.columns := by
  refine part_foldl_edit Draft.selected (fun d e => ?_) d edits
  cases e with
  | select columns => rfl
  | table | join | filter => exact (List.append_nil _).symm

theorem joins_foldl_edit (d : Draft) (edits : List Edit) :
    (edits.foldl edit d).joins = d.joins ++ edits.filterMap Edit.join? := by
  rw [List.filterMap_eq_flatMap_toList]
  refine part_foldl_edit Draft.joins (fun d e => ?_) d edits
  cases e with
  | join j => rfl
  | table | select | filter => exact (List.append_nil _).symm

theorem conditions_foldl_edit (d : Draft) (edits : List Edit) :
    (edits.foldl edit d).conditions = d.conditions ++ edits.filterMap Edit.condition? := by
  rw [List.filterMap_eq_flatMap_toList]
  refine part_foldl_edit Draft.conditions (fun d e => ?_) d edits
  cases e with
  | filter c => rfl
  | table | select | join => exact (List.append_nil _).symm

/-- Edits add no fields. -/
theorem fields_foldl_edit (d : Draft) (edits : List Edit) :
    (edits.foldl edit d).inserted = d.inserted ∧ (edits.foldl edit d).updated = d.updated := by
  induction edits generalizing d with
  | nil => exact ⟨rfl, rfl⟩
  | cons e rest ih =>
    rw [List.foldl_cons, (ih _).1, (ih _).2]
    cases e <;> exact ⟨rfl, rfl⟩

/-- Naming a table undoes edits that add nothing. -/
theorem edit_table_foldl_edit (d : Draft) {edits : List Edit}
    (h : ∀ e ∈ edits, e.addsNothing = true) (name : String) :
    (edits.foldl edit d).edit (.table name) = d.edit (.table name) := by
  induction edits generalizing d with
  | nil => rfl
  | cons e rest ih =>
    obtain ⟨he, hrest⟩ := List.forall_mem_cons.mp h
    obtain ⟨hcolumns, hjoin, hcondition⟩ := Edit.addsNothing_iff.mp he
    rw [List.foldl_cons, ih _ hrest]
    cases e with
    | table other => rfl
    | select columns =>
      change columns = [] at hcolumns
      subst hcolumns
      simp [edit]
    | join j => cases hjoin
    | filter c => cases hcondition

/-- A draft with no part of its own has had no edits but those that add nothing. -/
theorem addsNothing_of_foldl_edit {edits : List Edit}
    (hselected : (edits.foldl edit blank).selected = [])
    (hjoins : (edits.foldl edit blank).joins = [])
    (hconditions : (edits.foldl edit blank).conditions = []) :
    ∀ e ∈ edits, e.addsNothing = true := by
  rw [selected_foldl_edit] at hselected
  rw [joins_foldl_edit] at hjoins
  rw [conditions_foldl_edit] at hconditions
  intro e he
  refine Edit.addsNothing_iff.mpr ⟨?_, ?_, ?_⟩
  · exact List.flatMap_eq_nil_iff.mp (List.append_eq_nil_iff.mp hselected).2 e he
  · exact List.filterMap_eq_nil_iff.mp (List.append_eq_nil_iff.mp hjoins).2 e he
  · exact List.filterMap_eq_nil_iff.mp (List.append_eq_nil_iff.mp hconditions).2 e he

/-! ## Text without parts -/

theorem eq_nil_of_joinsSql {joins : List Join} (h : joinsSql joins = "") : joins = [] := by
  cases joins with
  | nil => rfl
  | cons j rest =>
    have hlength := congrArg String.length h
    unfold joinsSql joinSql at hlength
    simp at hlength

theorem eq_nil_of_conditionsSql {conditions : List Condition} (h : conditionsSql conditions = "") :
    conditions = [] := by
  cases conditions with
  | nil => rfl
  | cons c rest =>
    have hlength := congrArg String.length h
    unfold conditionsSql conditionSql at hlength
    simp at hlength

/-- Behind other columns an empty one still shows by its comma. -/
theorem eq_nil_of_commaSeparated {columns : List String}
    (h : commaSeparated (columns ++ [""]) = "") : columns = [] := by
  cases columns with
  | nil => rfl
  | cons column rest =>
    obtain ⟨next, more, hnext⟩ : ∃ next more, rest ++ [""] = next :: more := by
      cases rest with
      | nil => exact ⟨"", [], rfl⟩
      | cons other rest => exact ⟨other, rest ++ [""], rfl⟩
    have hlength := congrArg String.length h
    rw [List.cons_append, hnext] at hlength
    simp [commaSeparated] at hlength

end SqlBuilder.Draft
