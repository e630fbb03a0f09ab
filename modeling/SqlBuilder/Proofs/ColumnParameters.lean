import SqlBuilder.Proofs.PositionalMachine
import SqlBuilder.Statement.Column

/-!
# The parameter of a column, as the machine reads it

`Column.parameter` replaces every character that a parameter cannot carry, but it looks at each
character by itself, and a word may not begin with all the characters that it may go on with.  What
decides is the first character of the bare name: a numeral that is not alphabetic stays where it is,
and then the machine takes the colon for an ordinary character and binds nothing.  Any other
character begins a word, or is replaced by an underscore, which does (`isStart_wordChar`).

So the writer and the reader of parameters agree exactly on the columns whose bare names begin with
another character.  A column such as `2fa` is sent with its parameter's name in the text and without
its value.
-/
namespace SqlBuilder

namespace Word

theorem ne_colon_of_isPart {c : Char} (h : isPart c = true) : c ≠ ':' := by
  rintro rfl
  exact absurd h (by decide)

theorem isQuote_of_isPart {c : Char} (h : isPart c = true) : Positional.isQuote c = false := by
  cases hq : Positional.isQuote c with
  | false => rfl
  | true =>
    simp only [Positional.isQuote, Bool.or_eq_true, beq_iff_eq] at hq
    rcases hq with (rfl | rfl) | rfl <;> exact absurd h (by decide)

end Word

namespace Column

/-- The name that the parameter of a column carries. -/
def word (column : String) : List Char := (bareName column).toList.map wordChar

theorem toList_parameter (column : String) : (parameter column).toList = ':' :: word column := by
  rw [parameter, word, bareName, String.toList_ofList, String.toList_ofList]

theorem isPart_wordChar (c : Char) : Word.isPart (wordChar c) = true := by
  unfold wordChar
  split
  · next h => exact h
  · decide

theorem all_isPart_word (column : String) : (word column).all Word.isPart = true := by
  rw [word, List.all_map, List.all_eq_true]
  exact fun c _ => isPart_wordChar c

/-- Only a numeral that is not alphabetic becomes a character that no word begins with. -/
theorem isStart_wordChar (c : Char) :
    Word.isStart (wordChar c) = (Word.isAlphabetic c || !Word.isNumeric c) := by
  unfold wordChar
  -- The underscore is carried although it is not alphanumeric, so it is a case of its own.
  by_cases hc : c = '_'
  · subst hc
    decide
  · have hbeq : (c == '_') = false := beq_false_of_ne hc
    simp only [Word.isPart, Word.isAlphanumeric, hbeq, Bool.or_false]
    cases ha : Word.isAlphabetic c with
    | true => simp [Word.isStart, ha]
    | false =>
      cases hn : Word.isNumeric c with
      | true => simp [Word.isStart, ha, hbeq]
      | false => rfl

/-- Whether a column's parameter begins as a word does, so that a value can be bound to it. -/
def isBindable (column : String) : Bool := (word column).head?.any Word.isStart

theorem isBindable_eq {column : String} {first : Char}
    (h : (bareName column).toList.head? = some first) :
    isBindable column = (Word.isAlphabetic first || !Word.isNumeric first) := by
  rw [isBindable, word, List.head?_map, h, Option.map_some, Option.any_some, isStart_wordChar]

end Column

namespace Positional

variable (dialect : Dialect) (bindings : Bindings)

/-- The parameter of a bindable column takes the value that is bound to it. -/
theorem complete_column {column : String} (hcolumn : Column.isBindable column = true)
    {value : Value} (hvalue : bindings.get? (Column.parameter column) = some value)
    {rest : List Char} (hrest : endsName rest = true) {s : State} (hs : s.mode = .plain) :
    complete dialect bindings s ((Column.parameter column).toList ++ rest) =
      complete dialect bindings (s.bound dialect value) rest := by
  obtain ⟨first, name, hword⟩ : ∃ first name, Column.word column = first :: name := by
    cases hw : Column.word column with
    | nil => simp [Column.isBindable, hw] at hcolumn
    | cons first name => exact ⟨first, name, rfl⟩
  have hfirst : Word.isStart first = true := by
    simpa [Column.isBindable, hword] using hcolumn
  have hname : name.all Word.isPart = true := by
    have hall := Column.all_isPart_word column
    rw [hword, List.all_cons, Bool.and_eq_true] at hall
    exact hall.2
  have hparameter : String.ofList (':' :: (first :: name).reverse.reverse) =
      Column.parameter column := by
    rw [List.reverse_reverse, ← hword, ← Column.toList_parameter, String.ofList_toList]
  rw [Column.toList_parameter, hword,
    complete_parameter_append dialect bindings hs hfirst hname hrest,
    State.bind_of_some dialect bindings (hparameter ▸ hvalue)]
  rfl

theorem closes_of_all_isPart {text : List Char} (h : text.all Word.isPart = true) :
    closes none text = true := by
  induction text with
  | nil => rfl
  | cons c text ih =>
    rw [List.all_cons, Bool.and_eq_true] at h
    have hc := Word.ne_colon_of_isPart h.1
    rw [closes, Word.isQuote_of_isPart h.1, if_neg Bool.false_ne_true, ih h.2, bne_iff_ne.mpr hc]
    · rfl
    · rintro rest rfl
      exact absurd rfl hc

/-- The parameter of a column that is not bindable is copied. -/
theorem complete_unbindable_column {column : String} {first : Char}
    (hfirst : (Column.bareName column).toList.head? = some first)
    (hcolumn : Column.isBindable column = false) :
    complete dialect bindings start (Column.parameter column).toList =
      .ok (start.write (Column.parameter column).toList) := by
  obtain ⟨name, hword⟩ : ∃ name, Column.word column = Column.wordChar first :: name := by
    cases hn : (Column.bareName column).toList with
    | nil => simp [hn] at hfirst
    | cons c name =>
      rw [hn, List.head?_cons, Option.some.injEq] at hfirst
      exact ⟨name.map Column.wordChar, by rw [Column.word, hn, List.map_cons, hfirst]⟩
  have hpart := Column.all_isPart_word column
  have hne := Word.ne_colon_of_isPart (Column.isPart_wordChar first)
  have hstart : Word.isStart (Column.wordChar first) = false := by
    simpa [Column.isBindable, hword] using hcolumn
  -- Behind the colon, which is written as it is, the word is closed text like any other.
  have hclosed := complete_append_of_closes dialect bindings (closes_of_all_isPart hpart) []
    (s := start.write [':']) rfl
  rw [Column.toList_parameter, hword, complete_lone_colon dialect bindings rfl hne hstart, ← hword,
    ← List.append_nil (Column.word column), hclosed, List.append_nil, complete_nil]
  simp [finish, start, State.write]

end Positional

/-- **The writer and the reader of parameters agree** on a column with a name unless the name begins
with a numeral that is not alphabetic.  Then the text keeps the column's parameter, and its value is
not among the values. -/
theorem positional_parameter_eq (dialect : Dialect) {column : String} {first : Char}
    (hfirst : (Column.bareName column).toList.head? = some first) (value : Value) :
    positional dialect (Ordered.empty.insert (Column.parameter column) value)
        (Column.parameter column) =
      .ok (if Word.isNumeric first && !Word.isAlphabetic first then ⟨Column.parameter column, []⟩
        else ⟨dialect.marker 1, [value]⟩) := by
  have hvalue : (Ordered.empty.insert (Column.parameter column) value).get?
      (Column.parameter column) = some value := by
    rw [Ordered.get?_insert, if_pos rfl]
  have hcondition : (Word.isNumeric first && !Word.isAlphabetic first) =
      !Column.isBindable column := by
    rw [Column.isBindable_eq hfirst, Bool.not_or, Bool.not_not, Bool.and_comm]
  rw [hcondition]
  cases hc : Column.isBindable column with
  | true =>
    have hends : Positional.endsName [] = true := rfl
    have hbound := Positional.complete_column dialect _ hc hvalue hends (s := Positional.start) rfl
    rw [List.append_nil] at hbound
    rw [Positional.positional_of_complete dialect _ hbound]
    simp [Positional.State.bound, Positional.State.result, Positional.start]
  | false =>
    have hkept := Positional.complete_unbindable_column dialect
      (Ordered.empty.insert (Column.parameter column) value) hfirst hc
    rw [Positional.positional_of_complete dialect _ hkept]
    simp [Positional.State.result, Positional.start]

/-- The value of a column whose name begins with a digit is never sent. -/
theorem positional_parameter_of_digit :
    (Column.bareName "users.2fa").toList.head? = some '2' ∧
      positional .postgres (Ordered.empty.insert (Column.parameter "users.2fa") (.text "on"))
          (Column.parameter "users.2fa") =
        .ok ⟨":2fa", []⟩ := by
  have hfirst : (Column.bareName "users.2fa").toList.head? = some '2' := by decide
  exact ⟨hfirst, positional_parameter_eq .postgres hfirst (.text "on")⟩

/-- A column's name alone does not make its parameter one that takes a value. -/
theorem not_all_named_columns_bindable :
    ¬ ∀ (dialect : Dialect) (column : String) (value : Value), Column.bareName column ≠ "" →
      positional dialect (Ordered.empty.insert (Column.parameter column) value)
          (Column.parameter column) =
        .ok ⟨dialect.marker 1, [value]⟩ := by
  intro h
  have hdigit := h .postgres "users.2fa" (.text "on") (by decide)
  have hkept : positional .postgres
      (Ordered.empty.insert (Column.parameter "users.2fa") (.text "on"))
      (Column.parameter "users.2fa") = .ok ⟨":2fa", []⟩ := rfl
  rw [hkept] at hdigit
  exact absurd hdigit (by simp)

end SqlBuilder
