import SqlBuilder.Proofs.ColumnParameters
import SqlBuilder.Statement.Prepared

/-!
# Statements in pieces

The text of a statement is made of fragments, which stand as they are, and of the parameters of
columns.  `Draft.pieces` takes the text apart in this way, before anything is rendered, and
`named_pieces` says that naming the parameters gives back the draft's own SQL.

Pieces are **legible** when the machine that rewrites parameters can tell them apart: every fragment
is closed, every parameter begins a word, and nothing behind a parameter goes on with its name.  For
legible pieces whose parameters all have values, rewriting does to the text what it does to the
pieces: the fragments are copied, the markers are numbered in the order of the parameters, and the
values come in that order (`positional_named`).

Of a draft's pieces only the fragments that the caller chose can be illegible.  The words and
separators between them are closed, and one of them stands behind every parameter, so that
`isLegible_pieces` asks for nothing but the caller's own texts and columns.
-/
namespace SqlBuilder

/-- A part of the text of a statement. -/
inductive Piece where
  /-- Text that stands as it is. -/
  | fragment (text : String)
  /-- The parameter of a column. -/
  | parameter (column : String)

namespace Piece

/-- The text of a piece, with its parameter named. -/
def text : Piece → String
  | fragment text => text
  | parameter column => Column.parameter column

def column? : Piece → Option String
  | fragment _ => none
  | parameter column => some column

/-- The text of pieces, with their parameters named. -/
def named (pieces : List Piece) : String := String.join (pieces.map text)

/-- The text of pieces, with their parameters marked in a dialect's way and numbered from the given
number on. -/
def marked (dialect : Dialect) : Nat → List Piece → String
  | _, [] => ""
  | number, fragment text :: rest => text ++ marked dialect number rest
  | number, parameter _ :: rest => dialect.marker number ++ marked dialect (number + 1) rest

/-- The columns whose parameters occur, in the order in which they occur. -/
def columns (pieces : List Piece) : List String := pieces.filterMap column?

/-- Whether the machine can tell the pieces apart in their text. -/
def isLegible : List Piece → Bool
  | [] => true
  | fragment text :: rest => Positional.isClosed text && isLegible rest
  | parameter column :: rest =>
      Column.isBindable column && Positional.endsName (named rest).toList && isLegible rest

@[simp] theorem named_nil : named [] = "" := by simp [named]

@[simp] theorem named_fragment (text : String) (rest : List Piece) :
    named (fragment text :: rest) = text ++ named rest := by
  simp [named, Piece.text]

@[simp] theorem named_parameter (column : String) (rest : List Piece) :
    named (parameter column :: rest) = Column.parameter column ++ named rest := by
  simp [named, text]

@[simp] theorem named_append (pieces more : List Piece) :
    named (pieces ++ more) = named pieces ++ named more := by
  simp [named]

@[simp] theorem columns_nil : columns [] = [] := rfl

@[simp] theorem columns_fragment (text : String) (rest : List Piece) :
    columns (fragment text :: rest) = columns rest := rfl

@[simp] theorem columns_parameter (column : String) (rest : List Piece) :
    columns (parameter column :: rest) = column :: columns rest := rfl

@[simp] theorem columns_append (pieces more : List Piece) :
    columns (pieces ++ more) = columns pieces ++ columns more :=
  List.filterMap_append

/-! ## Rewriting legible pieces -/

section Rewriting
variable (dialect : Dialect) (bindings : Bindings)

open Positional in
/-- The machine reads legible pieces one by one. -/
theorem complete_named {pieces : List Piece} (hlegible : isLegible pieces = true)
    {values : List Value}
    (hvalues : (columns pieces).map (fun column => bindings.get? (Column.parameter column)) =
      values.map some)
    {s : State} (hs : s.mode = .plain) :
    complete dialect bindings s (named pieces).toList =
      .ok ⟨.plain, (marked dialect (s.values.length + 1) pieces).toList.reverse ++ s.written,
        values.reverse ++ s.values⟩ := by
  -- On the pieces; the text of the rest stays in view, since it decides where a name ends.
  induction pieces generalizing values s with
  | nil =>
    have hnone : values = [] := by simpa using hvalues.symm
    obtain ⟨mode, written, bound⟩ := s
    cases hs
    subst hnone
    simp [finish, marked]
  | cons piece rest ih =>
    cases piece with
    | fragment text =>
      rw [isLegible, Bool.and_eq_true] at hlegible
      rw [named_fragment, String.toList_append, complete_closed_append dialect bindings hlegible.1
        _ hs, ih hlegible.2 hvalues (by rw [State.mode_write, hs])]
      simp [marked, String.toList_append]
    | parameter column =>
      rw [isLegible, Bool.and_eq_true, Bool.and_eq_true] at hlegible
      obtain ⟨⟨hcolumn, hends⟩, hrest⟩ := hlegible
      obtain ⟨value, values, rfl⟩ : ∃ value values', values = value :: values' := by
        cases values with
        | nil => simp at hvalues
        | cons value values => exact ⟨value, values, rfl⟩
      rw [columns_parameter, List.map_cons, List.map_cons, List.cons.injEq] at hvalues
      rw [named_parameter, String.toList_append, complete_column dialect bindings hcolumn
        hvalues.1 hends hs, ih hrest hvalues.2 rfl]
      simp [marked, State.bound, String.toList_append]

/-- **Rewriting legible pieces** copies the fragments, numbers the markers and gives the values in
the order of the parameters. -/
theorem positional_named {pieces : List Piece} (hlegible : isLegible pieces = true)
    {values : List Value}
    (hvalues : (columns pieces).map (fun column => bindings.get? (Column.parameter column)) =
      values.map some) :
    positional dialect bindings (named pieces) = .ok ⟨marked dialect 1 pieces, values⟩ := by
  rw [Positional.positional_of_complete dialect bindings
    (complete_named dialect bindings hlegible hvalues rfl)]
  simp [Positional.State.result, Positional.start]

end Rewriting

/-! ## Putting legible pieces together -/

theorem endsName_append {text more : List Char} (htext : Positional.endsName text = true)
    (hmore : Positional.endsName more = true) : Positional.endsName (text ++ more) = true := by
  cases text with
  | nil => exact hmore
  | cons c text => exact htext

theorem endsName_named_nil : Positional.endsName (named []).toList = true := by
  rw [named_nil]
  rfl

/-- A fragment that begins with a separator ends a name before it. -/
theorem endsName_named_fragment {text : String}
    (h : text.toList.head?.any (fun c => !Word.isPart c) = true) (rest : List Piece) :
    Positional.endsName (named (fragment text :: rest)).toList = true := by
  rw [named_fragment, String.toList_append]
  cases htext : text.toList with
  | nil => simp [htext] at h
  | cons c text => simpa [htext, Positional.endsName] using h

theorem isLegible_append {pieces more : List Piece} (hpieces : isLegible pieces = true)
    (hmore : isLegible more = true) (hends : Positional.endsName (named more).toList = true) :
    isLegible (pieces ++ more) = true := by
  induction pieces with
  | nil => exact hmore
  | cons piece rest ih =>
    cases piece with
    | fragment text =>
      rw [isLegible, Bool.and_eq_true] at hpieces
      rw [List.cons_append, isLegible, hpieces.1, ih hpieces.2]
      rfl
    | parameter column =>
      rw [isLegible, Bool.and_eq_true, Bool.and_eq_true] at hpieces
      obtain ⟨⟨hcolumn, hrest⟩, hlegible⟩ := hpieces
      rw [List.cons_append, isLegible, hcolumn, ih hlegible, named_append, String.toList_append,
        endsName_append hrest hends]
      rfl

/-- Groups of pieces with a comma between every two. -/
def listed (groups : List (List Piece)) : List Piece := List.intercalate [fragment ", "] groups

@[simp] theorem listed_nil : listed [] = [] := rfl

@[simp] theorem listed_singleton (group : List Piece) : listed [group] = group := by
  simp [listed]

@[simp] theorem listed_cons_cons (group next : List Piece) (groups : List (List Piece)) :
    listed (group :: next :: groups) = group ++ fragment ", " :: listed (next :: groups) := by
  simp [listed]

theorem named_listed (groups : List (List Piece)) :
    named (listed groups) = Draft.commaSeparated (groups.map named) := by
  unfold Draft.commaSeparated
  induction groups with
  | nil => simp
  | cons group groups ih =>
    cases groups with
    | nil => simp
    | cons next groups =>
      rw [listed_cons_cons, named_append, named_fragment, ih]
      simp [String.append_assoc]

theorem columns_listed (groups : List (List Piece)) :
    columns (listed groups) = groups.flatMap columns := by
  induction groups with
  | nil => rfl
  | cons group groups ih =>
    cases groups with
    | nil => simp
    | cons next groups =>
      rw [listed_cons_cons, columns_append, columns_fragment, ih]
      rfl

theorem columns_flatMap {α : Type} (f : α → List Piece) (items : List α) :
    columns (items.flatMap f) = items.flatMap fun item => columns (f item) :=
  List.filterMap_flatMap

theorem named_flatMap {α : Type} (f : α → List Piece) (items : List α) :
    named (items.flatMap f) = String.join (items.map fun item => named (f item)) := by
  induction items with
  | nil => simp
  | cons item items ih => simp [ih]

/-- Legible groups are legible with commas between them, since a comma ends a name. -/
theorem isLegible_listed {groups : List (List Piece)}
    (h : ∀ group ∈ groups, isLegible group = true) : isLegible (listed groups) = true := by
  induction groups with
  | nil => rfl
  | cons group groups ih =>
    cases groups with
    | nil =>
      rw [listed_singleton]
      exact h group List.mem_cons_self
    | cons next groups =>
      have hrest := ih fun group hgroup => h group (List.mem_cons_of_mem _ hgroup)
      rw [listed_cons_cons]
      refine isLegible_append (h group List.mem_cons_self) ?_ ?_
      · rw [isLegible, hrest]
        rfl
      · exact endsName_named_fragment (by decide) _

/-- Groups that are legible and do not go on with a name are so one after the other. -/
theorem isLegible_flatMap {α : Type} {f : α → List Piece} {items : List α}
    (h : ∀ item ∈ items, isLegible (f item) = true ∧
      Positional.endsName (named (f item)).toList = true) :
    isLegible (items.flatMap f) = true ∧
      Positional.endsName (named (items.flatMap f)).toList = true := by
  induction items with
  | nil => exact ⟨rfl, endsName_named_nil⟩
  | cons item items ih =>
    obtain ⟨hlegible, hends⟩ := h item List.mem_cons_self
    obtain ⟨hrest, hrestEnds⟩ := ih fun other hother => h other (List.mem_cons_of_mem _ hother)
    rw [List.flatMap_cons, named_append, String.toList_append]
    exact ⟨isLegible_append hlegible hrest hrestEnds, endsName_append hends hrestEnds⟩

end Piece

/-! ## The pieces of a draft -/

/-- The texts that the caller chose in a condition. -/
def Condition.texts (c : Condition) : List String := [c.column, c.comparison.symbol]

/-- The texts that the caller chose in a join. -/
def Join.texts (j : Join) : List String := [j.table, j.first, j.comparison.symbol, j.second]

namespace Draft
open Piece

def conditionPieces (lead : String) (c : Condition) : List Piece :=
  [fragment " ", fragment lead, fragment " ", fragment c.column, fragment " ",
    fragment c.comparison.symbol, fragment " ", parameter c.column]

def conditionsPieces : List Condition → List Piece
  | [] => []
  | first :: rest =>
      conditionPieces "WHERE" first ++
        rest.flatMap fun c => conditionPieces c.conjunction.word c

def joinPieces (j : Join) : List Piece :=
  [fragment " ", fragment j.kind.words, fragment " ", fragment j.table, fragment " ON ",
    fragment j.first, fragment " ", fragment j.comparison.symbol, fragment " ", fragment j.second]

/-- The columns to read, or all of them. -/
def selectedPieces (columns : List String) : List Piece :=
  if columns.isEmpty then [fragment "*"] else listed (columns.map fun column => [fragment column])

def insertPieces (d : Draft) : List Piece :=
  fragment "INSERT INTO " :: fragment d.table :: fragment " (" ::
    listed (d.inserted.map fun column => [fragment column]) ++
    fragment ") VALUES (" :: listed (d.inserted.map fun column => [parameter column]) ++
    [fragment ")"]

def assignmentPieces (column : String) : List Piece :=
  [fragment column, fragment " = ", parameter column]

/-- The fragments and parameters of a statement of the given kind, in order. -/
def pieces (d : Draft) : Verb → List Piece
  | .select =>
      fragment "SELECT " :: selectedPieces d.selected ++ fragment " FROM " :: fragment d.table ::
        d.joins.flatMap joinPieces ++ conditionsPieces d.conditions
  | .insert => d.insertPieces
  | .insertReturningId => d.insertPieces ++ [fragment " RETURNING ", fragment idColumn]
  | .update =>
      fragment "UPDATE " :: fragment d.table :: fragment " SET " ::
        listed (d.updated.map assignmentPieces) ++ conditionsPieces d.conditions
  | .delete => fragment "DELETE FROM " :: fragment d.table :: conditionsPieces d.conditions

/-- The texts that the caller chose and that a statement of the given kind shows. -/
def texts (d : Draft) : Verb → List String
  | .select =>
      d.table :: d.selected ++ d.joins.flatMap Join.texts ++ d.conditions.flatMap Condition.texts
  | .insert | .insertReturningId => d.table :: d.inserted
  | .update => d.table :: d.updated ++ d.conditions.flatMap Condition.texts
  | .delete => d.table :: d.conditions.flatMap Condition.texts

/-- The columns whose parameters a statement of the given kind shows, in the order of the text. -/
def parameterColumns (d : Draft) : Verb → List String
  | .select | .delete => d.conditions.map Condition.column
  | .insert | .insertReturningId => d.inserted
  | .update => d.updated ++ d.conditions.map Condition.column

/-! ### The pieces give the text -/

theorem named_conditionPieces (lead : String) (c : Condition) :
    named (conditionPieces lead c) = conditionSql lead c := by
  unfold conditionPieces conditionSql
  simp only [named_fragment, named_parameter, named_nil, String.append_assoc, String.append_empty]

theorem named_conditionsPieces (conditions : List Condition) :
    named (conditionsPieces conditions) = conditionsSql conditions := by
  cases conditions with
  | nil => simp [conditionsPieces, conditionsSql]
  | cons first rest =>
    rw [conditionsPieces, conditionsSql, named_append, named_conditionPieces, named_flatMap]
    simp only [named_conditionPieces]

theorem named_joinPieces (j : Join) : named (joinPieces j) = joinSql j := by
  unfold joinPieces joinSql
  simp only [named_fragment, named_nil, String.append_assoc, String.append_empty]

theorem named_fragments (texts : List String) :
    named (listed (texts.map fun text => [fragment text])) = commaSeparated texts := by
  rw [named_listed, List.map_map]
  refine congrArg commaSeparated ((List.map_congr_left fun text _ => ?_).trans (List.map_id _))
  simp

theorem named_parameters (columns : List String) :
    named (listed (columns.map fun column => [parameter column])) =
      commaSeparated (columns.map Column.parameter) := by
  rw [named_listed, List.map_map]
  refine congrArg commaSeparated (List.map_congr_left fun column _ => ?_)
  simp

theorem named_assignments (columns : List String) :
    named (listed (columns.map assignmentPieces)) = commaSeparated (columns.map assignment) := by
  rw [named_listed, List.map_map]
  refine congrArg commaSeparated (List.map_congr_left fun column _ => ?_)
  simp only [Function.comp_apply, assignmentPieces, assignment, named_fragment, named_parameter,
    named_nil, String.append_assoc, String.append_empty]

theorem named_selectedPieces (columns : List String) :
    named (selectedPieces columns) =
      if columns.isEmpty then "*" else commaSeparated columns := by
  unfold selectedPieces
  split
  · simp
  · exact named_fragments columns

theorem named_insertPieces (d : Draft) : named d.insertPieces = d.insertSql := by
  unfold insertPieces insertSql
  simp only [named_append, named_fragment, named_nil, List.cons_append, named_fragments,
    named_parameters, String.append_assoc, String.append_empty]

/-- **The pieces of a draft give its text.** -/
theorem named_pieces (d : Draft) (verb : Verb) : named (d.pieces verb) = d.sql verb := by
  cases verb with
  | select =>
    unfold pieces sql selectSql joinsSql
    simp only [named_append, named_fragment, List.cons_append, named_selectedPieces, named_flatMap,
      named_joinPieces, named_conditionsPieces, String.append_assoc]
  | insert => exact named_insertPieces d
  | insertReturningId =>
    unfold pieces sql insertReturningIdSql
    simp only [named_append, named_fragment, named_nil, named_insertPieces, String.append_assoc,
      String.append_empty]
  | update =>
    unfold pieces sql updateSql
    simp only [named_append, named_fragment, List.cons_append, named_assignments,
      named_conditionsPieces, String.append_assoc]
  | delete =>
    unfold pieces sql deleteSql
    simp only [named_fragment, named_conditionsPieces, String.append_assoc]

/-! ### The parameters come in the order of the columns -/

theorem columns_conditionsPieces (conditions : List Condition) :
    columns (conditionsPieces conditions) = conditions.map Condition.column := by
  cases conditions with
  | nil => rfl
  | cons first rest =>
    rw [conditionsPieces, columns_append, columns_flatMap, List.map_cons]
    exact congrArg (first.column :: ·) List.map_eq_flatMap.symm

theorem columns_fragments (texts : List String) :
    columns (listed (texts.map fun text => [fragment text])) = [] := by
  rw [columns_listed, List.flatMap_map]
  exact List.flatMap_eq_nil_iff.mpr fun _ _ => rfl

theorem columns_selectedPieces (names : List String) : columns (selectedPieces names) = [] := by
  unfold selectedPieces
  split
  · rfl
  · exact columns_fragments names

theorem columns_joins (joins : List Join) : columns (joins.flatMap joinPieces) = [] := by
  rw [columns_flatMap]
  exact List.flatMap_eq_nil_iff.mpr fun _ _ => rfl

theorem columns_parameters (names : List String) :
    columns (listed (names.map fun column => [parameter column])) = names := by
  rw [columns_listed, List.flatMap_map]
  exact List.flatMap_singleton' names

theorem columns_assignments (names : List String) :
    columns (listed (names.map assignmentPieces)) = names := by
  rw [columns_listed, List.flatMap_map]
  exact List.flatMap_singleton' names

theorem columns_insertPieces (d : Draft) : columns d.insertPieces = d.inserted := by
  simp [insertPieces, columns_fragments, columns_parameters]

/-- **The parameters of a text** are those of its columns, in their order. -/
theorem columns_pieces (d : Draft) (verb : Verb) :
    columns (d.pieces verb) = d.parameterColumns verb := by
  cases verb with
  | select =>
    simp [pieces, parameterColumns, columns_selectedPieces, columns_joins,
      columns_conditionsPieces]
  | insert => exact columns_insertPieces d
  | insertReturningId => simp [pieces, parameterColumns, columns_insertPieces]
  | update => simp [pieces, parameterColumns, columns_assignments, columns_conditionsPieces]
  | delete => simp [pieces, parameterColumns, columns_conditionsPieces]

/-! ### Only the caller's texts can be illegible -/

theorem isClosed_conjunction (c : Conjunction) : Positional.isClosed c.word = true := by
  cases c <;> decide

theorem isClosed_joinKind (k : JoinKind) : Positional.isClosed k.words = true := by
  cases k <;> decide

/-- A condition is legible, and its leading blank ends the name of a parameter before it. -/
theorem isLegible_conditionPieces {lead : String} (hlead : Positional.isClosed lead = true)
    {c : Condition} (htexts : ∀ text ∈ c.texts, Positional.isClosed text = true)
    (hcolumn : Column.isBindable c.column = true) :
    isLegible (conditionPieces lead c) = true ∧
      Positional.endsName (named (conditionPieces lead c)).toList = true := by
  have hblank : Positional.isClosed " " = true := by decide
  have hname : Positional.isClosed c.column = true := htexts _ (by simp [Condition.texts])
  have hsymbol : Positional.isClosed c.comparison.symbol = true :=
    htexts _ (by simp [Condition.texts])
  constructor
  · simp only [conditionPieces, isLegible, hblank, hlead, hname, hsymbol, hcolumn,
      endsName_named_nil, Bool.and_self]
  · exact endsName_named_fragment (by decide) _

theorem isLegible_conditionsPieces {conditions : List Condition}
    (htexts : ∀ text ∈ conditions.flatMap Condition.texts, Positional.isClosed text = true)
    (hcolumns : ∀ column ∈ conditions.map Condition.column, Column.isBindable column = true) :
    isLegible (conditionsPieces conditions) = true ∧
      Positional.endsName (named (conditionsPieces conditions)).toList = true := by
  have hcondition : ∀ {lead : String}, Positional.isClosed lead = true → ∀ c ∈ conditions,
      isLegible (conditionPieces lead c) = true ∧
        Positional.endsName (named (conditionPieces lead c)).toList = true := by
    intro lead hlead c hc
    exact isLegible_conditionPieces hlead
      (fun text htext => htexts text (List.mem_flatMap.mpr ⟨c, hc, htext⟩))
      (hcolumns _ (List.mem_map_of_mem hc))
  cases conditions with
  | nil => exact ⟨rfl, endsName_named_nil⟩
  | cons first rest =>
    have hwhere : Positional.isClosed "WHERE" = true := by decide
    obtain ⟨hfirst, hfirstEnds⟩ := hcondition hwhere first List.mem_cons_self
    have hothers : ∀ c ∈ rest, isLegible (conditionPieces c.conjunction.word c) = true ∧
        Positional.endsName (named (conditionPieces c.conjunction.word c)).toList = true :=
      fun c hc => hcondition (isClosed_conjunction c.conjunction) c (List.mem_cons_of_mem _ hc)
    obtain ⟨hrest, hrestEnds⟩ := isLegible_flatMap hothers
    rw [conditionsPieces, named_append, String.toList_append]
    exact ⟨isLegible_append hfirst hrest hrestEnds, endsName_append hfirstEnds hrestEnds⟩

theorem isLegible_joinsPieces {joins : List Join}
    (htexts : ∀ text ∈ joins.flatMap Join.texts, Positional.isClosed text = true) :
    isLegible (joins.flatMap joinPieces) = true ∧
      Positional.endsName (named (joins.flatMap joinPieces)).toList = true := by
  refine isLegible_flatMap fun j hj => ?_
  have hblank : Positional.isClosed " " = true := by decide
  have hon : Positional.isClosed " ON " = true := by decide
  have hj : ∀ text ∈ j.texts, Positional.isClosed text = true :=
    fun text htext => htexts text (List.mem_flatMap.mpr ⟨j, hj, htext⟩)
  simp only [Join.texts, List.forall_mem_cons] at hj
  obtain ⟨htable, hfirst, hsymbol, hsecond, -⟩ := hj
  constructor
  · simp only [joinPieces, isLegible, hblank, hon, isClosed_joinKind, htable, hfirst, hsymbol,
      hsecond, Bool.and_self]
  · exact endsName_named_fragment (by decide) _

theorem isLegible_fragments {texts : List String}
    (h : ∀ text ∈ texts, Positional.isClosed text = true) :
    isLegible (listed (texts.map fun text => [fragment text])) = true := by
  refine isLegible_listed fun group hgroup => ?_
  obtain ⟨text, htext, rfl⟩ := List.mem_map.mp hgroup
  rw [isLegible, h text htext]
  rfl

theorem isLegible_parameters {columns : List String}
    (h : ∀ column ∈ columns, Column.isBindable column = true) :
    isLegible (listed (columns.map fun column => [parameter column])) = true := by
  refine isLegible_listed fun group hgroup => ?_
  obtain ⟨column, hcolumn, rfl⟩ := List.mem_map.mp hgroup
  rw [isLegible, h column hcolumn, endsName_named_nil]
  rfl

theorem isLegible_assignments {columns : List String}
    (htexts : ∀ column ∈ columns, Positional.isClosed column = true)
    (h : ∀ column ∈ columns, Column.isBindable column = true) :
    isLegible (listed (columns.map assignmentPieces)) = true := by
  refine isLegible_listed fun group hgroup => ?_
  obtain ⟨column, hcolumn, rfl⟩ := List.mem_map.mp hgroup
  have hequal : Positional.isClosed " = " = true := by decide
  simp only [assignmentPieces, isLegible, htexts column hcolumn, hequal, h column hcolumn,
    endsName_named_nil, Bool.and_self]

theorem isLegible_selectedPieces {columns : List String}
    (h : ∀ column ∈ columns, Positional.isClosed column = true) :
    isLegible (selectedPieces columns) = true := by
  unfold selectedPieces
  split
  · decide
  · exact isLegible_fragments h

/-- A fragment that is closed, in front of legible pieces. -/
theorem isLegible_fragment_cons {text : String} {rest : List Piece}
    (htext : Positional.isClosed text = true) (hrest : isLegible rest = true) :
    isLegible (fragment text :: rest) = true := by
  rw [isLegible, htext, hrest]
  rfl

theorem isLegible_insertPieces {d : Draft} (htable : Positional.isClosed d.table = true)
    (htexts : ∀ column ∈ d.inserted, Positional.isClosed column = true)
    (hcolumns : ∀ column ∈ d.inserted, Column.isBindable column = true) :
    isLegible d.insertPieces = true := by
  refine isLegible_append (isLegible_append ?_ ?_ ?_) (by decide) ?_
  · exact isLegible_fragment_cons (by decide) (isLegible_fragment_cons htable
      (isLegible_fragment_cons (by decide) (isLegible_fragments htexts)))
  · exact isLegible_fragment_cons (by decide) (isLegible_parameters hcolumns)
  · exact endsName_named_fragment (by decide) _
  · exact endsName_named_fragment (by decide) _

/-- **A draft's pieces are legible** when the texts that the caller chose are closed and values can
be bound to the columns. -/
theorem isLegible_pieces {d : Draft} {verb : Verb}
    (htexts : ∀ text ∈ d.texts verb, Positional.isClosed text = true)
    (hcolumns : ∀ column ∈ d.parameterColumns verb, Column.isBindable column = true) :
    isLegible (d.pieces verb) = true := by
  cases verb with
  | select =>
    simp only [texts, List.cons_append, List.forall_mem_cons, List.forall_mem_append] at htexts
    obtain ⟨htable, ⟨hselected, hjoins⟩, hconditions⟩ := htexts
    obtain ⟨hjoined, hjoinedEnds⟩ := isLegible_joinsPieces hjoins
    obtain ⟨hwhere, hwhereEnds⟩ := isLegible_conditionsPieces hconditions hcolumns
    refine isLegible_append (isLegible_append ?_ ?_ ?_) hwhere hwhereEnds
    · exact isLegible_fragment_cons (by decide) (isLegible_selectedPieces hselected)
    · exact isLegible_fragment_cons (by decide) (isLegible_fragment_cons htable hjoined)
    · exact endsName_named_fragment (by decide) _
  | insert =>
    rw [texts, List.forall_mem_cons] at htexts
    exact isLegible_insertPieces htexts.1 htexts.2 hcolumns
  | insertReturningId =>
    rw [texts, List.forall_mem_cons] at htexts
    refine isLegible_append (isLegible_insertPieces htexts.1 htexts.2 hcolumns) (by decide) ?_
    exact endsName_named_fragment (by decide) _
  | update =>
    simp only [texts, List.cons_append, List.forall_mem_cons, List.forall_mem_append] at htexts
    simp only [parameterColumns, List.forall_mem_append] at hcolumns
    obtain ⟨htable, hupdated, hconditions⟩ := htexts
    obtain ⟨hwhere, hwhereEnds⟩ := isLegible_conditionsPieces hconditions hcolumns.2
    refine isLegible_append ?_ hwhere hwhereEnds
    exact isLegible_fragment_cons (by decide) (isLegible_fragment_cons htable
      (isLegible_fragment_cons (by decide) (isLegible_assignments hupdated hcolumns.1)))
  | delete =>
    rw [texts, List.forall_mem_cons] at htexts
    exact isLegible_fragment_cons (by decide) (isLegible_fragment_cons htexts.1
      (isLegible_conditionsPieces htexts.2 hcolumns).1)

end Draft

end SqlBuilder
