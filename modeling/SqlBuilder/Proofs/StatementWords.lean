import SqlBuilder.Proofs.StatementPieces
import SqlBuilder.Proofs.StatementRefusals

/-!
# Statements word by word

The text of a statement is a row of words with single blanks between them.  Some of the words are
fixed, some are texts of the caller and some are parameters; in a list of columns a comma or a
parenthesis sticks to the word beside it.  `Draft.words` is this row, and `spaced_words` says that
the text is nothing else.

Behind the table of a statement stand its clauses, joins before conditions.  The words of a clause
do not depend on what is around it, so the row is put together clause by clause, and a list item by
item.

The words can be told apart in the text if none of them holds a blank (`eq_of_spaced_eq`).  The fixed
words and the parameters never do, so it is enough that no text of the caller does
(`not_mem_words`).
-/
namespace SqlBuilder

/-! ## Words and blanks -/

/-- Words, each of them behind a blank. -/
def spaced (words : List String) : String := String.join (words.map fun word => " " ++ word)

@[simp] theorem spaced_nil : spaced [] = "" := by simp [spaced]

@[simp] theorem spaced_cons (word : String) (words : List String) :
    spaced (word :: words) = " " ++ word ++ spaced words := by
  simp [spaced]

@[simp] theorem spaced_append (words more : List String) :
    spaced (words ++ more) = spaced words ++ spaced more := by
  simp [spaced]

theorem toList_spaced (words : List String) :
    (spaced words).toList = [' '].intercalate ([] :: words.map String.toList) := by
  induction words with
  | nil => simp
  | cons word words ih =>
    rw [spaced_cons, String.toList_append, String.toList_append, ih]
    cases words <;> simp [List.intercalate_cons_cons]

/-- The text is cut at its blanks into the words. -/
theorem splitOn_spaced {words : List String} (h : ∀ word ∈ words, ' ' ∉ word.toList) :
    (spaced words).toList.splitOn ' ' = [] :: words.map String.toList := by
  rw [toList_spaced]
  refine List.splitOn_intercalate ' ' ?_ (List.cons_ne_nil _ _)
  intro text htext
  rcases List.mem_cons.mp htext with rfl | htext
  · exact List.not_mem_nil
  · obtain ⟨word, hword, rfl⟩ := List.mem_map.mp htext
    exact h word hword

/-- Words without blanks can be told apart in their text. -/
theorem eq_of_spaced_eq {words others : List String} (hwords : ∀ word ∈ words, ' ' ∉ word.toList)
    (hothers : ∀ word ∈ others, ' ' ∉ word.toList) (h : spaced words = spaced others) :
    words = others := by
  have hsplit := splitOn_spaced hwords
  rw [h, splitOn_spaced hothers] at hsplit
  have hlists := (List.cons.inj hsplit).2.symm
  exact (List.map_inj_right fun _ _ => String.toList_inj.mp).mp hlists

theorem not_mem_append {text more : String} (h : ' ' ∉ text.toList) (hmore : ' ' ∉ more.toList) :
    ' ' ∉ (text ++ more).toList := by
  rw [String.toList_append, List.mem_append, not_or]
  exact ⟨h, hmore⟩

/-! ## Unbroken texts -/

/-- Whether a text holds neither a blank nor a comma. -/
def isUnbroken (text : String) : Bool := text.toList.all fun c => c != ' ' && c != ','

theorem isUnbroken_iff {text : String} :
    isUnbroken text = true ↔ ' ' ∉ text.toList ∧ ',' ∉ text.toList := by
  simp only [isUnbroken, List.all_eq_true, Bool.and_eq_true, bne_iff_ne]
  constructor
  · exact fun h => ⟨fun hblank => (h _ hblank).1 rfl, fun hcomma => (h _ hcomma).2 rfl⟩
  · rintro ⟨hblank, hcomma⟩ c hc
    exact ⟨fun e => hblank (e ▸ hc), fun e => hcomma (e ▸ hc)⟩

theorem isUnbroken_append {text more : String} (h : isUnbroken text = true)
    (hmore : isUnbroken more = true) : isUnbroken (text ++ more) = true := by
  rw [isUnbroken, String.toList_append, List.all_append]
  exact Bool.and_eq_true_iff.mpr ⟨h, hmore⟩

theorem isUnbroken_parameter (column : String) : isUnbroken (Column.parameter column) = true := by
  have hnot : ∀ c : Char, Word.isPart c = false → c ≠ ':' → c ∉ (Column.parameter column).toList := by
    intro c hc hcolon hmem
    rw [Column.toList_parameter] at hmem
    rcases List.mem_cons.mp hmem with rfl | hmem
    · exact hcolon rfl
    · have hpart := List.all_eq_true.mp (Column.all_isPart_word column) c hmem
      rw [hc] at hpart
      cases hpart
  exact isUnbroken_iff.mpr ⟨hnot ' ' (by decide) (by decide), hnot ',' (by decide) (by decide)⟩

theorem not_mem_parameter (column : String) : ' ' ∉ (Column.parameter column).toList :=
  (isUnbroken_iff.mp (isUnbroken_parameter column)).1

/-! ## Clauses -/

/-- A part of a statement behind its table. -/
inductive Clause where
  | join (join : Join)
  /-- A condition behind `WHERE`, or behind its conjunction. -/
  | condition (lead : Option Conjunction) (column : String) (comparison : Comparison)

/-- The words that a join begins with. -/
def JoinKind.keywords : JoinKind → List String
  | inner => ["JOIN"]
  | left => ["LEFT", "JOIN"]
  | right => ["RIGHT", "JOIN"]
  | full => ["FULL", "OUTER", "JOIN"]
  | cross => ["CROSS", "JOIN"]

/-- The word that a condition begins with. -/
def Conjunction.leadWord : Option Conjunction → String
  | none => "WHERE"
  | some conjunction => conjunction.word

/-- The clause of a condition. -/
def Condition.clause (lead : Option Conjunction) (c : Condition) : Clause :=
  .condition lead c.column c.comparison

namespace Clause

def words : Clause → List String
  | join j => j.kind.keywords ++ [j.table, "ON", j.first, j.comparison.symbol, j.second]
  | condition lead column comparison =>
      [Conjunction.leadWord lead, column, comparison.symbol, Column.parameter column]

/-- The texts that the caller chose in a clause. -/
def texts : Clause → List String
  | join j => j.texts
  | condition _ column comparison => [column, comparison.symbol]

/-- The clauses of conditions.  The first of them stands behind `WHERE`. -/
def ofConditions : List Condition → List Clause
  | [] => []
  | first :: rest => first.clause none :: rest.map fun c => c.clause (some c.conjunction)

theorem texts_joins (joins : List Join) :
    (joins.map join).flatMap texts = joins.flatMap Join.texts :=
  List.flatMap_map _ _ joins

theorem texts_ofConditions (conditions : List Condition) :
    (ofConditions conditions).flatMap texts = conditions.flatMap Condition.texts := by
  cases conditions with
  | nil => rfl
  | cons first rest =>
    rw [ofConditions, List.flatMap_cons, List.flatMap_cons, List.flatMap_map]
    rfl

theorem spaced_flatMap_words (clauses : List Clause) :
    spaced (clauses.flatMap words) = String.join (clauses.map fun c => spaced c.words) := by
  induction clauses with
  | nil => simp
  | cons c clauses ih => simp [ih]

theorem spaced_joins (joins : List Join) :
    spaced ((joins.map join).flatMap words) = Draft.joinsSql joins := by
  have hjoin : ∀ j : Join, spaced (join j).words = Draft.joinSql j := by
    intro j
    have hkind : spaced j.kind.keywords = " " ++ j.kind.words := by
      cases j.kind <;> rfl
    have hon : " ON " = " " ++ ("ON" ++ " ") := rfl
    rw [words, spaced_append, hkind, Draft.joinSql, hon]
    simp only [spaced_cons, spaced_nil, String.append_assoc, String.append_empty]
  rw [spaced_flatMap_words, List.map_map, Draft.joinsSql]
  exact congrArg String.join (List.map_congr_left fun j _ => hjoin j)

theorem spaced_conditions (conditions : List Condition) :
    spaced ((ofConditions conditions).flatMap words) = Draft.conditionsSql conditions := by
  have hcondition : ∀ lead (c : Condition),
      spaced (c.clause lead).words = Draft.conditionSql (Conjunction.leadWord lead) c := by
    intro lead c
    rw [Condition.clause, words, Draft.conditionSql]
    simp only [spaced_cons, spaced_nil, String.append_assoc, String.append_empty]
  cases conditions with
  | nil => simp [ofConditions, Draft.conditionsSql]
  | cons first rest =>
    rw [ofConditions, List.flatMap_cons, spaced_append, hcondition, spaced_flatMap_words,
      List.map_map, Draft.conditionsSql]
    refine congrArg (_ ++ String.join ·) (List.map_congr_left fun c _ => ?_)
    exact hcondition _ c

/-- The words of a clause hold no blanks where the caller's texts hold none. -/
theorem not_mem_words {c : Clause} (h : ∀ text ∈ c.texts, ' ' ∉ text.toList) :
    ∀ word ∈ c.words, ' ' ∉ word.toList := by
  cases c with
  | join j =>
    have hkeywords : ∀ word ∈ j.kind.keywords, ' ' ∉ word.toList := by
      cases j.kind <;> decide
    simp only [texts, Join.texts, List.forall_mem_cons] at h
    obtain ⟨htable, hfirst, hsymbol, hsecond, hnone⟩ := h
    simp only [words, List.forall_mem_append, List.forall_mem_cons]
    exact ⟨hkeywords, htable, by decide, hfirst, hsymbol, hsecond, hnone⟩
  | condition lead column comparison =>
    have hlead : ' ' ∉ (Conjunction.leadWord lead).toList := by
      rcases lead with _ | _ | _ <;> decide
    simp only [texts, List.forall_mem_cons] at h
    obtain ⟨hcolumn, hsymbol, hnone⟩ := h
    simp only [words, List.forall_mem_cons]
    exact ⟨hlead, hcolumn, hsymbol, not_mem_parameter column, hnone⟩

theorem not_mem_flatMap_words {clauses : List Clause}
    (h : ∀ text ∈ clauses.flatMap texts, ' ' ∉ text.toList) :
    ∀ word ∈ clauses.flatMap words, ' ' ∉ word.toList := by
  intro word hword
  obtain ⟨c, hc, hword⟩ := List.mem_flatMap.mp hword
  exact not_mem_words (fun text htext => h text (List.mem_flatMap.mpr ⟨c, hc, htext⟩)) word hword

end Clause

/-! ## Lists with commas -/

/-- The words of a list of names.  Each name has a text directly behind it, a comma in front of
another name and the closing text at the end. -/
def listed (item : String → String → List String) (closing : String) : List String → List String
  | [] => []
  | [name] => item name closing
  | name :: next :: rest => item name "," ++ listed item closing (next :: rest)

/-- A name by itself, as the item of a list. -/
def nameItem (name after : String) : List String := [name ++ after]

/-- A column and the parameter of its new value, as the item of a list. -/
def assignmentItem (column after : String) : List String :=
  [column, "=", Column.parameter column ++ after]

/-- The words of a list of names in parentheses. -/
def enclosed (names : List String) : List String :=
  listed nameItem ")" (names.modifyHead ("(" ++ ·))

/-- What holds of names holds of them in parentheses, if the opening one does no harm. -/
theorem forall_mem_opened {p : String → Prop} {names : List String} (h : ∀ name ∈ names, p name)
    (hopening : ∀ name, p name → p ("(" ++ name)) : ∀ name ∈ names.modifyHead ("(" ++ ·), p name := by
  cases names with
  | nil => exact h
  | cons name rest =>
    obtain ⟨hname, hrest⟩ := List.forall_mem_cons.mp h
    exact List.forall_mem_cons.mpr ⟨hopening name hname, hrest⟩

theorem spaced_listed {item : String → String → List String} {text : String → String}
    (hitem : ∀ name after, spaced (item name after) = " " ++ text name ++ after)
    (closing : String) {names : List String} (hnames : names ≠ []) :
    spaced (listed item closing names) =
      " " ++ Draft.commaSeparated (names.map text) ++ closing := by
  have hcomma : ", " = "," ++ " " := rfl
  unfold Draft.commaSeparated
  induction names with
  | nil => exact absurd rfl hnames
  | cons name rest ih =>
    cases rest with
    | nil => simp [listed, hitem]
    | cons next rest =>
      rw [listed, spaced_append, hitem, ih (List.cons_ne_nil _ _), List.map_cons, List.map_cons,
        List.map_cons, String.intercalate_cons_cons, hcomma]
      simp only [String.append_assoc]

theorem spaced_names (closing : String) {names : List String} (hnames : names ≠ []) :
    spaced (listed nameItem closing names) = " " ++ Draft.commaSeparated names ++ closing := by
  have hitem : ∀ name after, spaced (nameItem name after) = " " ++ id name ++ after := by
    intro name after
    simp [nameItem, String.append_assoc]
  rw [spaced_listed hitem closing hnames, List.map_id]

theorem spaced_assignments {columns : List String} (hcolumns : columns ≠ []) :
    spaced (listed assignmentItem "" columns) =
      " " ++ Draft.commaSeparated (columns.map Draft.assignment) := by
  have hitem : ∀ column after,
      spaced (assignmentItem column after) = " " ++ Draft.assignment column ++ after := by
    intro column after
    have hequal : " = " = " " ++ ("=" ++ " ") := rfl
    rw [Draft.assignment, hequal]
    simp only [assignmentItem, spaced_cons, spaced_nil, String.append_assoc, String.append_empty]
  rw [spaced_listed hitem "" hcolumns, String.append_empty]

theorem spaced_enclosed {names : List String} (hnames : names ≠ []) :
    spaced (enclosed names) = " (" ++ Draft.commaSeparated names ++ ")" := by
  have hopening : " (" = " " ++ "(" := rfl
  obtain ⟨name, rest, rfl⟩ := List.exists_cons_of_ne_nil hnames
  rw [enclosed, List.modifyHead_cons, spaced_names ")" (List.cons_ne_nil _ _)]
  unfold Draft.commaSeparated
  rw [String.intercalate_cons_append, hopening]
  simp only [String.append_assoc]

theorem not_mem_listed {item : String → String → List String} {closing : String}
    (hclosing : ' ' ∉ closing.toList) {names : List String}
    (hitem : ∀ name ∈ names, ∀ after : String, ' ' ∉ after.toList →
      ∀ word ∈ item name after, ' ' ∉ word.toList) :
    ∀ word ∈ listed item closing names, ' ' ∉ word.toList := by
  induction names with
  | nil => exact fun _ h => nomatch h
  | cons name rest ih =>
    obtain ⟨hname, hrest⟩ := List.forall_mem_cons.mp hitem
    cases rest with
    | nil => exact hname closing hclosing
    | cons next rest =>
      rw [listed, List.forall_mem_append]
      exact ⟨hname "," (by decide), ih hrest⟩

theorem not_mem_names {closing : String} (hclosing : ' ' ∉ closing.toList) {names : List String}
    (h : ∀ name ∈ names, ' ' ∉ name.toList) :
    ∀ word ∈ listed nameItem closing names, ' ' ∉ word.toList := by
  refine not_mem_listed hclosing fun name hname after hafter => ?_
  rw [nameItem, List.forall_mem_singleton]
  exact not_mem_append (h name hname) hafter

theorem not_mem_enclosed {names : List String} (h : ∀ name ∈ names, ' ' ∉ name.toList) :
    ∀ word ∈ enclosed names, ' ' ∉ word.toList :=
  not_mem_names (by decide) (forall_mem_opened h fun _ hname => not_mem_append (by decide) hname)

theorem not_mem_assignments {columns : List String} (h : ∀ column ∈ columns, ' ' ∉ column.toList) :
    ∀ word ∈ listed assignmentItem "" columns, ' ' ∉ word.toList := by
  refine not_mem_listed (by decide) fun column hcolumn after hafter => ?_
  simp only [assignmentItem, List.forall_mem_cons]
  refine ⟨h column hcolumn, by decide, ?_, fun _ h => nomatch h⟩
  exact not_mem_append (not_mem_parameter column) hafter

/-! ## The words of a draft -/

namespace Draft

/-- The columns that a read names.  A star stands for all of them where none is selected. -/
def namedColumns (d : Draft) : List String := if d.selected = [] then ["*"] else d.selected

theorem namedColumns_ne_nil (d : Draft) : d.namedColumns ≠ [] := by
  unfold namedColumns
  split
  · exact List.cons_ne_nil _ _
  · assumption

theorem commaSeparated_namedColumns (d : Draft) :
    commaSeparated d.namedColumns =
      if d.selected.isEmpty then "*" else commaSeparated d.selected := by
  unfold namedColumns
  cases d.selected <;> simp [commaSeparated]

/-- What stands behind the table of a read. -/
def clauses (d : Draft) : List Clause := d.joins.map Clause.join ++ Clause.ofConditions d.conditions

def insertWords (d : Draft) : List String :=
  "INSERT" :: "INTO" :: d.table :: enclosed d.inserted ++
    "VALUES" :: enclosed (d.inserted.map Column.parameter)

/-- The words of a statement of the given kind. -/
def words (d : Draft) : Verb → List String
  | .select =>
      "SELECT" :: listed nameItem "" d.namedColumns ++
        "FROM" :: d.table :: d.clauses.flatMap Clause.words
  | .insert => d.insertWords
  | .insertReturningId => d.insertWords ++ ["RETURNING", idColumn]
  | .update =>
      "UPDATE" :: d.table :: "SET" :: listed assignmentItem "" d.updated ++
        (Clause.ofConditions d.conditions).flatMap Clause.words
  | .delete =>
      "DELETE" :: "FROM" :: d.table :: (Clause.ofConditions d.conditions).flatMap Clause.words

/-- An insert passes its check only with columns. -/
theorem inserted_ne_nil_of_check {d : Draft} {verb : Verb}
    (hverb : verb = .insert ∨ verb = .insertReturningId) (h : d.check verb = .ok ()) :
    d.inserted ≠ [] := by
  intro hnone
  have htable := table_ne_of_check h
  rcases hverb with rfl | rfl
  all_goals
    rw [check, if_neg htable] at h
    simp [hnone] at h

theorem updated_ne_nil_of_check {d : Draft} (h : d.check .update = .ok ()) : d.updated ≠ [] := by
  intro hnone
  have htable := table_ne_of_check h
  rw [check, if_neg htable] at h
  simp [hnone] at h

theorem spaced_insertWords {d : Draft} (h : d.inserted ≠ []) :
    spaced d.insertWords = " " ++ d.insertSql := by
  have hparameters : d.inserted.map Column.parameter ≠ [] := by
    simpa using h
  have hinto : "INSERT INTO " = "INSERT" ++ (" " ++ ("INTO" ++ " ")) := rfl
  have hvalues : ") VALUES (" = ")" ++ (" " ++ ("VALUES" ++ " (")) := rfl
  unfold insertWords insertSql
  rw [spaced_append, hinto, hvalues]
  simp only [spaced_cons, spaced_enclosed h, spaced_enclosed hparameters, String.append_assoc]

/-- **The text of a statement is its words** with blanks between them. -/
theorem spaced_words {d : Draft} {verb : Verb} (h : d.check verb = .ok ()) :
    spaced (d.words verb) = " " ++ d.sql verb := by
  -- Both sides are brought to one chain of words and blanks; only the fixed texts have to be cut.
  cases verb with
  | select =>
    have hselect : "SELECT " = "SELECT" ++ " " := rfl
    have hfrom : " FROM " = " " ++ ("FROM" ++ " ") := rfl
    unfold words sql selectSql clauses
    rw [← commaSeparated_namedColumns, hselect, hfrom, List.flatMap_append]
    simp only [spaced_cons, spaced_append, spaced_names "" d.namedColumns_ne_nil,
      Clause.spaced_joins, Clause.spaced_conditions, String.append_assoc, String.append_empty]
  | insert => exact spaced_insertWords (inserted_ne_nil_of_check (.inl rfl) h)
  | insertReturningId =>
    have hreturning : " RETURNING " = " " ++ ("RETURNING" ++ " ") := rfl
    unfold words sql insertReturningIdSql
    rw [spaced_append, spaced_insertWords (inserted_ne_nil_of_check (.inr rfl) h), hreturning]
    simp only [spaced_cons, spaced_nil, String.append_assoc, String.append_empty]
  | update =>
    have hupdate : "UPDATE " = "UPDATE" ++ " " := rfl
    have hset : " SET " = " " ++ ("SET" ++ " ") := rfl
    unfold words sql updateSql
    rw [hupdate, hset]
    simp only [spaced_cons, spaced_append, spaced_assignments (updated_ne_nil_of_check h),
      Clause.spaced_conditions, String.append_assoc]
  | delete =>
    have hdelete : "DELETE FROM " = "DELETE" ++ (" " ++ ("FROM" ++ " ")) := rfl
    unfold words sql deleteSql
    rw [hdelete]
    simp only [spaced_cons, Clause.spaced_conditions, String.append_assoc]

theorem not_mem_insertWords {d : Draft} (htable : ' ' ∉ d.table.toList)
    (hcolumns : ∀ column ∈ d.inserted, ' ' ∉ column.toList) :
    ∀ word ∈ d.insertWords, ' ' ∉ word.toList := by
  have hparameters : ∀ name ∈ d.inserted.map Column.parameter, ' ' ∉ name.toList := by
    intro name hname
    obtain ⟨column, -, rfl⟩ := List.mem_map.mp hname
    exact not_mem_parameter column
  simp only [insertWords, List.cons_append, List.forall_mem_cons, List.forall_mem_append]
  exact ⟨by decide, by decide, htable, not_mem_enclosed hcolumns, by decide,
    not_mem_enclosed hparameters⟩

/-- **The words hold no blanks** where the caller's texts hold none. -/
theorem not_mem_words {d : Draft} {verb : Verb} (h : ∀ text ∈ d.texts verb, ' ' ∉ text.toList) :
    ∀ word ∈ d.words verb, ' ' ∉ word.toList := by
  cases verb with
  | select =>
    simp only [texts, List.cons_append, List.forall_mem_cons, List.forall_mem_append] at h
    obtain ⟨htable, ⟨hselected, hjoins⟩, hconditions⟩ := h
    have hclauses : ∀ text ∈ d.clauses.flatMap Clause.texts, ' ' ∉ text.toList := by
      rw [clauses, List.flatMap_append, Clause.texts_joins, Clause.texts_ofConditions,
        List.forall_mem_append]
      exact ⟨hjoins, hconditions⟩
    have hnamed : ∀ name ∈ d.namedColumns, ' ' ∉ name.toList := by
      unfold namedColumns
      split
      · decide
      · exact hselected
    simp only [words, List.cons_append, List.forall_mem_cons, List.forall_mem_append]
    exact ⟨by decide, not_mem_names (by decide) hnamed, by decide, htable,
      Clause.not_mem_flatMap_words hclauses⟩
  | insert =>
    rw [texts, List.forall_mem_cons] at h
    exact not_mem_insertWords h.1 h.2
  | insertReturningId =>
    rw [texts, List.forall_mem_cons] at h
    rw [words, List.forall_mem_append]
    exact ⟨not_mem_insertWords h.1 h.2, by decide⟩
  | update =>
    simp only [texts, List.cons_append, List.forall_mem_cons, List.forall_mem_append] at h
    obtain ⟨htable, hupdated, hconditions⟩ := h
    rw [← Clause.texts_ofConditions] at hconditions
    simp only [words, List.cons_append, List.forall_mem_cons, List.forall_mem_append]
    exact ⟨by decide, htable, by decide, not_mem_assignments hupdated,
      Clause.not_mem_flatMap_words hconditions⟩
  | delete =>
    rw [texts, List.forall_mem_cons, ← Clause.texts_ofConditions] at h
    simp only [words, List.forall_mem_cons]
    exact ⟨by decide, by decide, h.1, Clause.not_mem_flatMap_words h.2⟩

end Draft

end SqlBuilder
