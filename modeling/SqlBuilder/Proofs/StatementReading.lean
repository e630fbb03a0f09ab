import SqlBuilder.Proofs.StatementWords

/-!
# What a statement's text tells

Words can be read from the front.  A clause begins with a word that tells what kind of clause it is,
and the kind tells how many words the clause has, so it can be split off whatever begins with it
(`Clause.words_append_inj`).  It does not matter that a text of the caller may be such a word itself:
a table may be called `WHERE` and a column `ON`, since a text only ever stands where no clause can
begin.  A list goes on as long as its items end with commas, so it can be split off as well
(`listed_append_inj`).

Reading the words of two drafts side by side in this way, equal words come from drafts that say the
same (`showsSame_of_words_eq`): the same table, columns and joins, and conditions that read the same.
The text shows everything of them but two things, the values and the conjunction of the first
condition.
-/
namespace SqlBuilder

/-! ## What statements show -/

/-- Lists of conditions that read the same.  Values do not show, and neither does the conjunction of
the first condition. -/
structure Condition.ReadSame (conditions others : List Condition) : Prop where
  columns : conditions.map Condition.column = others.map Condition.column
  comparisons : conditions.map Condition.comparison = others.map Condition.comparison
  conjunctions : conditions.tail.map Condition.conjunction = others.tail.map Condition.conjunction

/-- Drafts that say the same, as far as a statement of the given kind shows it. -/
def Draft.ShowsSame (d e : Draft) : Verb → Prop
  | .select =>
      d.table = e.table ∧ d.namedColumns = e.namedColumns ∧ d.joins = e.joins ∧
        Condition.ReadSame d.conditions e.conditions
  | .insert | .insertReturningId => d.table = e.table ∧ d.inserted = e.inserted
  | .update =>
      d.table = e.table ∧ d.updated = e.updated ∧ Condition.ReadSame d.conditions e.conditions
  | .delete => d.table = e.table ∧ Condition.ReadSame d.conditions e.conditions

/-! ## Clauses can be split off -/

/-- The keywords of a join tell its kind. -/
theorem JoinKind.keywords_append_inj {kind other : JoinKind} {words more : List String}
    (h : kind.keywords ++ words = other.keywords ++ more) : kind = other ∧ words = more := by
  cases kind <;> cases other <;> simp_all [keywords]

theorem Conjunction.leadWord_inj {lead other : Option Conjunction}
    (h : leadWord lead = leadWord other) : lead = other := by
  rcases lead with _ | _ | _ <;> rcases other with _ | _ | _ <;> simp_all [leadWord, word]

/-- No join begins like a condition. -/
theorem JoinKind.keywords_append_ne (kind : JoinKind) (lead : Option Conjunction)
    (words more : List String) :
    kind.keywords ++ words ≠ Conjunction.leadWord lead :: more := by
  intro h
  obtain ⟨first, rest, hkeywords⟩ : ∃ first rest, kind.keywords = first :: rest := by
    cases kind <;> exact ⟨_, _, rfl⟩
  rw [hkeywords, List.cons_append] at h
  have hfirst := (List.cons.inj h).1
  cases kind <;> cases hkeywords <;> rcases lead with _ | _ | _ <;>
    exact absurd hfirst (by decide)

namespace Clause

theorem words_ne_nil (c : Clause) : c.words ≠ [] := by
  cases c with
  | join j => simp [words]
  | condition lead column comparison => exact List.cons_ne_nil _ _

/-- **A clause can be split off** whatever begins with it. -/
theorem words_append_inj {c e : Clause} {rest more : List String}
    (h : c.words ++ rest = e.words ++ more) : c = e ∧ rest = more := by
  cases c with
  | join j =>
    obtain ⟨kind, table, first, ⟨symbol⟩, second⟩ := j
    cases e with
    | join i =>
      obtain ⟨kind', table', first', ⟨symbol'⟩, second'⟩ := i
      rw [words, words, List.append_assoc, List.append_assoc] at h
      obtain ⟨rfl, hwords⟩ := JoinKind.keywords_append_inj h
      simp only [List.cons_append, List.nil_append, List.cons.injEq, true_and] at hwords
      obtain ⟨rfl, rfl, rfl, rfl, hrest⟩ := hwords
      exact ⟨rfl, hrest⟩
    | condition lead column comparison =>
      rw [words, words, List.append_assoc] at h
      exact absurd h (kind.keywords_append_ne lead _ _)
  | condition lead column comparison =>
    cases e with
    | join i =>
      rw [words, words, List.append_assoc] at h
      exact absurd h.symm (i.kind.keywords_append_ne lead _ _)
    | condition lead' column' comparison' =>
      obtain ⟨symbol⟩ := comparison
      obtain ⟨symbol'⟩ := comparison'
      simp only [words, List.cons_append, List.nil_append, List.cons.injEq] at h
      obtain ⟨hlead, rfl, rfl, -, hrest⟩ := h
      rw [Conjunction.leadWord_inj hlead]
      exact ⟨rfl, hrest⟩

theorem eq_of_flatMap_words {clauses others : List Clause}
    (h : clauses.flatMap words = others.flatMap words) : clauses = others := by
  induction clauses generalizing others with
  | nil =>
    cases others with
    | nil => rfl
    | cons e others => exact absurd (List.append_eq_nil_iff.mp h.symm).1 e.words_ne_nil
  | cons c clauses ih =>
    cases others with
    | nil => exact absurd (List.append_eq_nil_iff.mp h).1 c.words_ne_nil
    | cons e others =>
      obtain ⟨rfl, hrest⟩ := words_append_inj h
      rw [ih hrest]

/-! ### Clauses tell what can be read of conditions -/

theorem clause_eq_iff {lead other : Option Conjunction} {c e : Condition} :
    c.clause lead = e.clause other ↔
      lead = other ∧ c.column = e.column ∧ c.comparison = e.comparison := by
  rw [Condition.clause, Condition.clause, Clause.condition.injEq]

/-- Behind the first condition, clauses show all but the values. -/
theorem map_clause_eq_iff {conditions others : List Condition} :
    (conditions.map fun c => c.clause (some c.conjunction)) =
        (others.map fun c => c.clause (some c.conjunction)) ↔
      conditions.map Condition.column = others.map Condition.column ∧
        conditions.map Condition.comparison = others.map Condition.comparison ∧
        conditions.map Condition.conjunction = others.map Condition.conjunction := by
  induction conditions generalizing others with
  | nil => simp
  | cons c conditions ih =>
    cases others with
    | nil => simp
    | cons e others =>
      simp only [List.map_cons, List.cons.injEq, ih, clause_eq_iff, Option.some.injEq]
      grind

theorem ofConditions_eq_iff {conditions others : List Condition} :
    ofConditions conditions = ofConditions others ↔ Condition.ReadSame conditions others := by
  cases conditions with
  | nil =>
    cases others with
    | nil => exact ⟨fun _ => ⟨rfl, rfl, rfl⟩, fun _ => rfl⟩
    | cons e others => exact ⟨nofun, fun h => nomatch h.columns⟩
  | cons c conditions =>
    cases others with
    | nil => exact ⟨nofun, fun h => nomatch h.columns⟩
    | cons e others =>
      rw [ofConditions, ofConditions, List.cons.injEq, map_clause_eq_iff, clause_eq_iff]
      constructor
      · rintro ⟨⟨-, hcolumn, hcomparison⟩, hcolumns, hcomparisons, hconjunctions⟩
        exact ⟨List.cons_eq_cons.mpr ⟨hcolumn, hcolumns⟩,
          List.cons_eq_cons.mpr ⟨hcomparison, hcomparisons⟩, hconjunctions⟩
      · rintro ⟨hcolumns, hcomparisons, hconjunctions⟩
        obtain ⟨hcolumn, hcolumns⟩ := List.cons.inj hcolumns
        obtain ⟨hcomparison, hcomparisons⟩ := List.cons.inj hcomparisons
        exact ⟨⟨rfl, hcolumn, hcomparison⟩, hcolumns, hcomparisons, hconjunctions⟩

/-- The join that a clause is. -/
def join? : Clause → Option Join
  | join j => some j
  | condition _ _ _ => none

theorem filterMap_join? (joins : List Join) (conditions : List Condition) :
    (joins.map join ++ ofConditions conditions).filterMap join? = joins := by
  have hnone : (ofConditions conditions).filterMap join? = [] := by
    cases conditions with
    | nil => rfl
    | cons first rest =>
      rw [ofConditions, List.filterMap_cons, List.filterMap_map]
      exact List.filterMap_eq_nil_iff.mpr fun _ _ => rfl
  rw [List.filterMap_append, hnone, List.filterMap_map, List.append_nil]
  exact List.filterMap_some

end Clause

/-! ## Lists can be split off -/

/-- What stands behind an item can be told from it. -/
theorem append_after_inj {name other after after' closing : String}
    (hname : isUnbroken name = true) (hother : isUnbroken other = true)
    (hclosing : isUnbroken closing = true) (hafter : after = "," ∨ after = closing)
    (hafter' : after' = "," ∨ after' = closing) (h : name ++ after = other ++ after') :
    name = other ∧ after = after' := by
  have hcomma : ∀ {text plain : String}, isUnbroken plain = true →
      text ++ "," ≠ plain ++ closing := by
    intro text plain hplain heq
    have hmem : ',' ∈ (plain ++ closing).toList := by
      rw [← heq, String.toList_append]
      exact List.mem_append_right _ (List.mem_singleton.mpr rfl)
    exact (isUnbroken_iff.mp (isUnbroken_append hplain hclosing)).2 hmem
  rcases hafter with rfl | rfl <;> rcases hafter' with rfl | rfl
  · exact ⟨(String.append_left_inj _).mp h, rfl⟩
  · exact absurd h (hcomma hother)
  · exact absurd h.symm (hcomma hname)
  · exact ⟨(String.append_left_inj _).mp h, rfl⟩

/-- Items that can be split off whatever begins with them, and from what stands behind them. -/
def Splits (item : String → String → List String) (closing : String) : Prop :=
  ∀ {name other after after' : String} {rest more : List String},
    isUnbroken name = true → isUnbroken other = true →
    (after = "," ∨ after = closing) → (after' = "," ∨ after' = closing) →
    item name after ++ rest = item other after' ++ more →
    name = other ∧ after = after' ∧ rest = more

theorem splits_nameItem {closing : String} (hclosing : isUnbroken closing = true) :
    Splits nameItem closing := by
  intro name other after after' rest more hname hother hafter hafter' h
  obtain ⟨hword, hrest⟩ := List.cons.inj h
  obtain ⟨hsame, hbehind⟩ := append_after_inj hname hother hclosing hafter hafter' hword
  exact ⟨hsame, hbehind, hrest⟩

theorem splits_assignmentItem : Splits assignmentItem "" := by
  intro column other after after' rest more _ _ hafter hafter' h
  obtain ⟨rfl, hwords⟩ := List.cons.inj h
  obtain ⟨hparameter, hrest⟩ := List.cons.inj (List.cons.inj hwords).2
  have hunbroken := isUnbroken_parameter column
  have hbehind := append_after_inj hunbroken hunbroken (by decide) hafter hafter' hparameter
  exact ⟨rfl, hbehind.2, hrest⟩

/-- **A list can be split off** whatever begins with it. -/
theorem listed_append_inj {item : String → String → List String} {closing : String}
    (hitem : Splits item closing) (hclosing : isUnbroken closing = true)
    {names others : List String} (hnames : names ≠ []) (hothers : others ≠ [])
    (hunbroken : ∀ name ∈ names, isUnbroken name = true)
    (hunbroken' : ∀ name ∈ others, isUnbroken name = true) {rest more : List String}
    (h : listed item closing names ++ rest = listed item closing others ++ more) :
    names = others ∧ rest = more := by
  have hcomma : "," ≠ closing := by
    rintro rfl
    exact absurd hclosing (by decide)
  -- Where one list ends and the other goes on, the texts behind the items differ.
  induction names generalizing others with
  | nil => exact absurd rfl hnames
  | cons name names ih =>
    cases others with
    | nil => exact absurd rfl hothers
    | cons other others =>
      obtain ⟨hname, htail⟩ := List.forall_mem_cons.mp hunbroken
      obtain ⟨hother, htail'⟩ := List.forall_mem_cons.mp hunbroken'
      cases names with
      | nil =>
        cases others with
        | nil =>
          obtain ⟨rfl, -, hrest⟩ := hitem hname hother (.inr rfl) (.inr rfl) h
          exact ⟨rfl, hrest⟩
        | cons next' others =>
          rw [listed, listed, List.append_assoc] at h
          exact absurd (hitem hname hother (.inr rfl) (.inl rfl) h).2.1.symm hcomma
      | cons next names =>
        cases others with
        | nil =>
          rw [listed, listed, List.append_assoc] at h
          exact absurd (hitem hname hother (.inl rfl) (.inr rfl) h).2.1 hcomma
        | cons next' others =>
          rw [listed, listed, List.append_assoc, List.append_assoc] at h
          obtain ⟨rfl, -, hlists⟩ := hitem hname hother (.inl rfl) (.inl rfl) h
          obtain ⟨hsame, hrest⟩ :=
            ih (List.cons_ne_nil _ _) (List.cons_ne_nil _ _) htail htail' hlists
          exact ⟨by rw [hsame], hrest⟩

theorem enclosed_append_inj {names others : List String} (hnames : names ≠ [])
    (hothers : others ≠ []) (hunbroken : ∀ name ∈ names, isUnbroken name = true)
    (hunbroken' : ∀ name ∈ others, isUnbroken name = true) {rest more : List String}
    (h : enclosed names ++ rest = enclosed others ++ more) : names = others ∧ rest = more := by
  have hopening : ∀ name, isUnbroken name = true → isUnbroken ("(" ++ name) = true :=
    fun _ hname => isUnbroken_append (by decide) hname
  obtain ⟨name, names, rfl⟩ := List.exists_cons_of_ne_nil hnames
  obtain ⟨other, others, rfl⟩ := List.exists_cons_of_ne_nil hothers
  obtain ⟨hlists, hrest⟩ := listed_append_inj (splits_nameItem (by decide)) (by decide)
    (List.cons_ne_nil _ _) (List.cons_ne_nil _ _) (forall_mem_opened hunbroken hopening)
    (forall_mem_opened hunbroken' hopening) h
  obtain ⟨hfirst, hnames⟩ := List.cons.inj hlists
  exact ⟨List.cons_eq_cons.mpr ⟨(String.append_right_inj "(").mp hfirst, hnames⟩, hrest⟩

/-! ## Statements tell what they show -/

namespace Draft

theorem insertWords_append_inj {d e : Draft} {rest more : List String} (hd : d.inserted ≠ [])
    (he : e.inserted ≠ []) (hdtexts : ∀ column ∈ d.inserted, isUnbroken column = true)
    (hetexts : ∀ column ∈ e.inserted, isUnbroken column = true)
    (h : d.insertWords ++ rest = e.insertWords ++ more) :
    d.table = e.table ∧ d.inserted = e.inserted := by
  unfold insertWords at h
  simp only [List.cons_append, List.append_assoc, List.cons.injEq, true_and] at h
  exact ⟨h.1, (enclosed_append_inj hd he hdtexts hetexts h.2).1⟩

/-- The clauses of a read tell its joins from its conditions. -/
theorem clauses_inj {d e : Draft} (h : d.clauses = e.clauses) :
    d.joins = e.joins ∧ Condition.ReadSame d.conditions e.conditions := by
  have hjoins : d.joins = e.joins := by
    have hfiltered := congrArg (List.filterMap Clause.join?) h
    unfold clauses at hfiltered
    rw [Clause.filterMap_join?, Clause.filterMap_join?] at hfiltered
    exact hfiltered
  unfold clauses at h
  rw [hjoins] at h
  exact ⟨hjoins, Clause.ofConditions_eq_iff.mp (List.append_cancel_left h)⟩

theorem isUnbroken_namedColumns {d : Draft} (h : ∀ column ∈ d.selected, isUnbroken column = true) :
    ∀ column ∈ d.namedColumns, isUnbroken column = true := by
  unfold namedColumns
  split
  · decide
  · exact h

/-- **The words of a statement tell what it shows.** -/
theorem showsSame_of_words_eq {d e : Draft} {verb : Verb} (hd : d.check verb = .ok ())
    (he : e.check verb = .ok ()) (hdtexts : ∀ text ∈ d.texts verb, isUnbroken text = true)
    (hetexts : ∀ text ∈ e.texts verb, isUnbroken text = true) (h : d.words verb = e.words verb) :
    d.ShowsSame e verb := by
  cases verb with
  | select =>
    simp only [texts, List.cons_append, List.forall_mem_cons, List.forall_mem_append]
      at hdtexts hetexts
    obtain ⟨hcolumns, hrest⟩ := listed_append_inj (splits_nameItem (by decide)) (by decide)
      d.namedColumns_ne_nil e.namedColumns_ne_nil (isUnbroken_namedColumns hdtexts.2.1.1)
      (isUnbroken_namedColumns hetexts.2.1.1) (List.cons.inj h).2
    obtain ⟨htable, hclauses⟩ := List.cons.inj (List.cons.inj hrest).2
    exact ⟨htable, hcolumns, clauses_inj (Clause.eq_of_flatMap_words hclauses)⟩
  | insert =>
    rw [texts, List.forall_mem_cons] at hdtexts hetexts
    exact insertWords_append_inj (inserted_ne_nil_of_check (.inl rfl) hd)
      (inserted_ne_nil_of_check (.inl rfl) he) hdtexts.2 hetexts.2 (congrArg (· ++ []) h)
  | insertReturningId =>
    rw [texts, List.forall_mem_cons] at hdtexts hetexts
    exact insertWords_append_inj (inserted_ne_nil_of_check (.inr rfl) hd)
      (inserted_ne_nil_of_check (.inr rfl) he) hdtexts.2 hetexts.2 h
  | update =>
    simp only [texts, List.cons_append, List.forall_mem_cons, List.forall_mem_append]
      at hdtexts hetexts
    obtain ⟨htable, hrest⟩ := List.cons.inj (List.cons.inj h).2
    obtain ⟨hupdated, hclauses⟩ := listed_append_inj splits_assignmentItem (by decide)
      (updated_ne_nil_of_check hd) (updated_ne_nil_of_check he) hdtexts.2.1 hetexts.2.1
      (List.cons.inj hrest).2
    exact ⟨htable, hupdated, Clause.ofConditions_eq_iff.mp (Clause.eq_of_flatMap_words hclauses)⟩
  | delete =>
    obtain ⟨htable, hclauses⟩ := List.cons.inj (List.cons.inj (List.cons.inj h).2).2
    exact ⟨htable, Clause.ofConditions_eq_iff.mp (Clause.eq_of_flatMap_words hclauses)⟩

/-- A text is made of what it shows and of nothing else. -/
theorem ShowsSame.sql_eq {d e : Draft} {verb : Verb} (h : d.ShowsSame e verb) :
    d.sql verb = e.sql verb := by
  have hconditionsSql : Condition.ReadSame d.conditions e.conditions →
      conditionsSql d.conditions = conditionsSql e.conditions := by
    intro hsame
    rw [← Clause.spaced_conditions, ← Clause.spaced_conditions,
      Clause.ofConditions_eq_iff.mpr hsame]
  cases verb with
  | select =>
    obtain ⟨htable, hcolumns, hjoins, hconditions⟩ := h
    unfold sql selectSql
    rw [← commaSeparated_namedColumns, ← commaSeparated_namedColumns, hcolumns, htable, hjoins,
      hconditionsSql hconditions]
  | insert =>
    obtain ⟨htable, hinserted⟩ := h
    unfold sql insertSql
    rw [htable, hinserted]
  | insertReturningId =>
    obtain ⟨htable, hinserted⟩ := h
    unfold sql insertReturningIdSql insertSql
    rw [htable, hinserted]
  | update =>
    obtain ⟨htable, hupdated, hconditions⟩ := h
    unfold sql updateSql
    rw [htable, hupdated, hconditionsSql hconditions]
  | delete =>
    obtain ⟨htable, hconditions⟩ := h
    unfold sql deleteSql
    rw [htable, hconditionsSql hconditions]

/-- **A text tells what it shows.**  Two prepared statements of one kind, in whose texts of the caller
there are neither blanks nor commas, have the same SQL exactly if their drafts say the same: the
table, and as the kind has them the columns, the joins with their kinds, and the conditions, all in
order.  A read of no columns is the read of `*`, and texts may be empty. -/
theorem sql_eq_iff_showsSame {d e : Draft} {dialect other : Dialect} {verb : Verb} {p q : Prepared}
    (hp : d.prepare dialect verb = .ok p) (hq : e.prepare other verb = .ok q)
    (hd : ∀ text ∈ d.texts verb, isUnbroken text = true)
    (he : ∀ text ∈ e.texts verb, isUnbroken text = true) :
    p.sql = q.sql ↔ d.ShowsSame e verb := by
  have hdcheck := check_of_prepare hp
  have hecheck := check_of_prepare hq
  rw [eq_of_prepare hp, eq_of_prepare hq]
  constructor
  · intro (hsql : d.sql verb = e.sql verb)
    have hspaced : spaced (d.words verb) = spaced (e.words verb) := by
      rw [spaced_words hdcheck, spaced_words hecheck, hsql]
    have hwords := eq_of_spaced_eq
      (not_mem_words fun text htext => (isUnbroken_iff.mp (hd text htext)).1)
      (not_mem_words fun text htext => (isUnbroken_iff.mp (he text htext)).1) hspaced
    exact showsSame_of_words_eq hdcheck hecheck hd he hwords
  · exact ShowsSame.sql_eq

/-- Three reads whose tables and columns are called like keywords.  The first two have the same text,
although the first condition of the second follows an `OR` and its values are others; the third joins
in another way. -/
theorem sql_of_keyword_names :
    let d : Draft :=
      { blank with
        table := "WHERE"
        joins := [⟨.left, "ON", "JOIN", .equal, "AND"⟩]
        conditions := [⟨"id", .equal, .int32 1, .and⟩, ⟨"OR", .like, .text "A%", .or⟩] }
    let e : Draft :=
      { d with
        selected := ["*"]
        conditions := [⟨"id", .equal, .int32 9, .or⟩, ⟨"OR", .like, .text "B%", .or⟩] }
    let f : Draft := { d with joins := [⟨.inner, "ON", "JOIN", .equal, "AND"⟩] }
    d.prepare .postgres .select = .ok ⟨.select, d.sql .select, d.bindings⟩ ∧
      e.prepare .mysql .select = .ok ⟨.select, e.sql .select, e.bindings⟩ ∧
      f.prepare .sqlite .select = .ok ⟨.select, f.sql .select, f.bindings⟩ ∧
      d.sql .select = e.sql .select ∧ d.sql .select ≠ f.sql .select := by
  intro d e f
  have hdp : d.prepare .postgres .select = .ok ⟨.select, d.sql .select, d.bindings⟩ := rfl
  have hep : e.prepare .mysql .select = .ok ⟨.select, e.sql .select, e.bindings⟩ := rfl
  have hfp : f.prepare .sqlite .select = .ok ⟨.select, f.sql .select, f.bindings⟩ := rfl
  have hd : ∀ text ∈ d.texts .select, isUnbroken text = true := by decide
  have he : ∀ text ∈ e.texts .select, isUnbroken text = true := by decide
  have hf : ∀ text ∈ f.texts .select, isUnbroken text = true := by decide
  have hsame : d.ShowsSame e .select := ⟨rfl, rfl, rfl, rfl, rfl, rfl⟩
  have hdifferent : ¬ d.ShowsSame f .select := fun h => absurd h.2.2.1 (by decide)
  refine ⟨hdp, hep, hfp, (sql_eq_iff_showsSame hdp hep hd he).mpr hsame, fun hsql => ?_⟩
  exact hdifferent ((sql_eq_iff_showsSame hdp hfp hd hf).mp hsql)

end Draft

end SqlBuilder
