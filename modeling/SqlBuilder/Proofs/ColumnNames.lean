import Mathlib.Data.List.DropRight
import Mathlib.Data.List.Forall2
import SqlBuilder.Proofs.ColumnParameters

/-!
# Ways to write a column

One column can be written in many ways: under any qualification, and in the quotes of any dialect.
All of them share a parameter.  The bare name is what the ways have in common, and it is a normal
form: it is a way to write the column itself, and nothing more is taken off it.

Two facts carry this.  What stands before a dot does not matter (`lastSegment_append`), and neither
do quotes around a name (`unquote_enclosed`); a name is its unquoted form with quotes around it
(`exists_enclosed_unquote`), so unquoting twice is unquoting once.

The parameter is a normal form too, with a colon in front.  Its name is a word, and a word is its own
bare name (`bareName_of_isWord`).
-/
namespace SqlBuilder.Column

/-! ## Qualifications -/

theorem lastSegment_append (qualifier column : List Char) :
    lastSegment (qualifier ++ '.' :: column) = lastSegment column := by
  have hreverse : (qualifier ++ '.' :: column).reverse =
      column.reverse ++ '.' :: qualifier.reverse := by
    simp
  -- Read from behind, the dot ends the segment if no dot in the column has ended it before.
  rw [lastSegment, lastSegment, hreverse, List.takeWhile_append]
  split
  · rename_i hwhole
    rw [List.takeWhile_cons_of_neg (by decide), List.append_nil,
      (List.takeWhile_prefix _).eq_of_length hwhole]
  · rfl

theorem lastSegment_of_not_mem {name : List Char} (h : '.' ∉ name) : lastSegment name = name := by
  refine List.rtakeWhile_eq_self_iff.mpr fun c hc => ?_
  exact decide_eq_true fun e => h (e ▸ hc)

theorem not_mem_lastSegment (column : List Char) : '.' ∉ lastSegment column := by
  intro h
  have hc : decide ('.' ≠ '.') = true := @List.mem_rtakeWhile_imp _ _ column '.' h
  exact of_decide_eq_true hc rfl

/-! ## Quotes -/

/-- Quotes around a name are taken off, however many there are and whether or not they match. -/
theorem unquote_enclosed {opening closing : List Char} (hopening : opening.all isQuote = true)
    (hclosing : closing.all isQuote = true) (name : List Char) :
    unquote (opening ++ name ++ closing) = unquote name := by
  rw [List.all_eq_true] at hopening hclosing
  have hbehind : closing.reverse.dropWhile isQuote = [] :=
    List.dropWhile_eq_nil_iff.mpr fun c hc => hclosing c (List.mem_reverse.mp hc)
  rw [unquote, unquote, List.append_assoc, List.dropWhile_append_of_pos hopening,
    List.dropWhile_append]
  split
  · -- The name is made of quotes only, and then so is everything.
    rename_i hempty
    rw [List.isEmpty_iff.mp hempty, List.dropWhile_eq_nil_iff.mpr hclosing]
  · rw [List.reverse_append, List.dropWhile_append, hbehind, List.isEmpty_nil, if_pos rfl]

/-- A name is its unquoted form with quotes around it. -/
theorem exists_enclosed_unquote (name : List Char) :
    ∃ opening closing, opening.all isQuote = true ∧ closing.all isQuote = true ∧
      name = opening ++ unquote name ++ closing := by
  refine ⟨name.takeWhile isQuote, (name.dropWhile isQuote).rtakeWhile isQuote, List.all_takeWhile,
    List.all_eq_true.mpr fun c hc => List.mem_rtakeWhile_imp hc, ?_⟩
  have hrest :
      unquote name ++ (name.dropWhile isQuote).rtakeWhile isQuote = name.dropWhile isQuote :=
    List.rdropWhile_append_rtakeWhile
  rw [List.append_assoc, hrest, List.takeWhile_append_dropWhile]

theorem unquote_unquote (name : List Char) : unquote (unquote name) = unquote name := by
  obtain ⟨opening, closing, hopening, hclosing, hname⟩ := exists_enclosed_unquote name
  calc unquote (unquote name) = unquote (opening ++ unquote name ++ closing) :=
        (unquote_enclosed hopening hclosing _).symm
    _ = unquote name := congrArg unquote hname.symm

theorem not_mem_unquote {name : List Char} {c : Char} (h : c ∉ name) : c ∉ unquote name := by
  obtain ⟨opening, closing, -, -, hname⟩ := exists_enclosed_unquote name
  intro hmem
  refine h ?_
  rw [hname]
  exact List.mem_append_left _ (List.mem_append_right _ hmem)

/-! ## Bare names -/

theorem toList_bareName (column : String) :
    (bareName column).toList = unquote (lastSegment column.toList) := String.toList_ofList

theorem bareName_bareName (column : String) : bareName (bareName column) = bareName column := by
  rw [← String.toList_inj, toList_bareName, toList_bareName,
    lastSegment_of_not_mem (not_mem_unquote (not_mem_lastSegment _)), unquote_unquote]

theorem bareName_qualified (qualifier column : String) :
    bareName (qualifier ++ "." ++ column) = bareName column := by
  have hdot : (qualifier ++ "." ++ column).toList = qualifier.toList ++ '.' :: column.toList := by
    rw [String.toList_append, String.toList_append, List.append_assoc]
    rfl
  rw [← String.toList_inj, toList_bareName, toList_bareName, hdot, lastSegment_append]

theorem not_mem_of_all_isQuote {quotes : List Char} (h : quotes.all isQuote = true) :
    '.' ∉ quotes := by
  intro hmem
  exact absurd (List.all_eq_true.mp h '.' hmem) (by decide)

theorem bareName_enclosed {opening closing column : String} (hcolumn : '.' ∉ column.toList)
    (hopening : opening.toList.all isQuote = true) (hclosing : closing.toList.all isQuote = true) :
    bareName (opening ++ column ++ closing) = bareName column := by
  have htext : (opening ++ column ++ closing).toList =
      opening.toList ++ column.toList ++ closing.toList := by
    rw [String.toList_append, String.toList_append]
  have hdots : '.' ∉ opening.toList ++ column.toList ++ closing.toList := by
    rw [List.mem_append, List.mem_append, not_or, not_or]
    exact ⟨⟨not_mem_of_all_isQuote hopening, hcolumn⟩, not_mem_of_all_isQuote hclosing⟩
  rw [← String.toList_inj, toList_bareName, toList_bareName, htext, lastSegment_of_not_mem hdots,
    lastSegment_of_not_mem hcolumn, unquote_enclosed hopening hclosing]

/-! ## Words -/

/-- A text that a parameter can carry as it is. -/
def isWord (text : String) : Bool := text.toList.all Word.isPart

theorem unquote_of_isWord {text : String} (h : isWord text = true) :
    unquote text.toList = text.toList := by
  have hquote : ∀ c ∈ text.toList, isQuote c = false := by
    intro c hc
    have hpart := List.all_eq_true.mp h c hc
    cases hq : isQuote c with
    | false => rfl
    | true =>
      have hmem : c ∈ ['"', '\x60', '[', ']'] := of_decide_eq_true hq
      simp only [List.mem_cons, List.not_mem_nil, or_false] at hmem
      rcases hmem with rfl | rfl | rfl | rfl <;> exact absurd hpart (by decide)
  have hkept : ∀ {name : List Char}, (∀ c ∈ name, isQuote c = false) →
      name.dropWhile isQuote = name := by
    intro name hname
    cases name with
    | nil => rfl
    | cons c name =>
      exact List.dropWhile_cons_of_neg (Bool.eq_false_iff.mp (hname c List.mem_cons_self))
  rw [unquote, hkept hquote, hkept fun c hc => hquote c (List.mem_reverse.mp hc),
    List.reverse_reverse]

/-- A word is written without a qualification and without quotes. -/
theorem bareName_of_isWord {text : String} (h : isWord text = true) : bareName text = text := by
  have hdot : '.' ∉ text.toList := fun hmem =>
    absurd (List.all_eq_true.mp h '.' hmem) (by decide)
  rw [← String.toList_inj, toList_bareName, lastSegment_of_not_mem hdot, unquote_of_isWord h]

theorem word_of_isWord {text : String} (h : isWord text = true) : word text = text.toList := by
  rw [word, bareName_of_isWord h]
  calc text.toList.map wordChar = text.toList.map id :=
        List.map_congr_left fun c hc => if_pos (List.all_eq_true.mp h c hc)
    _ = text.toList := List.map_id _

theorem parameter_eq (column : String) : parameter column = ":" ++ String.ofList (word column) := by
  have hcolon : ":".toList = [':'] := rfl
  rw [← String.toList_inj, toList_parameter, String.toList_append, hcolon, String.toList_ofList,
    List.singleton_append]

theorem parameter_of_isWord {text : String} (h : isWord text = true) :
    parameter text = ":" ++ text := by
  rw [parameter_eq, word_of_isWord h, String.ofList_toList]

theorem isWord_ofList_word (column : String) : isWord (String.ofList (word column)) = true := by
  rw [isWord, String.toList_ofList]
  exact all_isPart_word column

/-- The ways to write a column share its parameter. -/
theorem parameter_congr {column other : String} (h : bareName column = bareName other) :
    parameter column = parameter other := by
  rw [parameter_eq, parameter_eq, word, word, h]

/-- **The parameter of a column is a normal form of it.**  Neither a qualification nor quotes around
the name matter to the bare name, and taking them off again changes nothing.  The parameter is a colon
and a word, which has a character for each of the bare name: the same one where a word can have it,
else an underscore.  It is the parameter of the bare name as well, and of its own word.  Columns that
are words have different parameters if they are different. -/
theorem parameter_normal_form (column : String) :
    bareName (bareName column) = bareName column ∧
      (∀ qualifier : String, bareName (qualifier ++ "." ++ column) = bareName column ∧
        parameter (qualifier ++ "." ++ column) = parameter column) ∧
      (∀ opening closing : String, '.' ∉ column.toList → opening.toList.all isQuote = true →
        closing.toList.all isQuote = true →
        bareName (opening ++ column ++ closing) = bareName column) ∧
      (∃ name : String, parameter column = ":" ++ name ∧ isWord name = true ∧
        List.Forall₂ (fun c d => d = if Word.isPart c then c else '_')
          (bareName column).toList name.toList ∧
        parameter (bareName column) = ":" ++ name ∧ parameter name = ":" ++ name) ∧
      ∀ other : String, isWord column = true → isWord other = true →
        parameter column = parameter other → column = other := by
  have hbare := bareName_bareName column
  refine ⟨hbare, fun qualifier => ?_, fun opening closing => bareName_enclosed, ?_, ?_⟩
  · have hname := bareName_qualified qualifier column
    exact ⟨hname, parameter_congr hname⟩
  · have hword := isWord_ofList_word column
    refine ⟨_, parameter_eq column, hword, ?_, ?_, parameter_of_isWord hword⟩
    · rw [String.toList_ofList, word, List.forall₂_map_right_iff]
      exact List.forall₂_same.mpr fun c _ => rfl
    · rw [parameter_congr hbare, parameter_eq]
  · intro other hcolumn hother h
    rw [parameter_of_isWord hcolumn, parameter_of_isWord hother] at h
    exact (String.append_right_inj ":").mp h

/-- A name with a blank, qualified and in quotes that do not match. -/
theorem parameter_of_quoted_name :
    '.' ∉ "première fois".toList ∧ "[\"".toList.all isQuote = true ∧
      "\x60".toList.all isQuote = true ∧
      bareName ("dbo" ++ "." ++ ("[\"" ++ "première fois" ++ "\x60")) = "première fois" ∧
      parameter ("dbo" ++ "." ++ ("[\"" ++ "première fois" ++ "\x60")) = ":première_fois" ∧
      isWord "première_fois" = true ∧ isWord "premièrefois" = true ∧
      parameter "première_fois" ≠ parameter "premièrefois" := by
  have hdot : '.' ∉ "première fois".toList := by decide
  have hopening : "[\"".toList.all isQuote = true := by decide
  have hclosing : "\x60".toList.all isQuote = true := by decide
  have hword : isWord "première_fois" = true := by decide +kernel
  have hother : isWord "premièrefois" = true := by decide +kernel
  have hquoted := (parameter_normal_form "première fois").2.2.1 _ _ hdot hopening hclosing
  generalize "[\"" ++ "première fois" ++ "\x60" = quoted at hquoted ⊢
  obtain ⟨hbare, hparameter⟩ := (parameter_normal_form quoted).2.1 "dbo"
  have hbare' : bareName "première fois" = "première fois" := by decide +kernel
  refine ⟨hdot, hopening, hclosing, hbare.trans (hquoted.trans hbare'), ?_, hword, hother,
    fun h => ?_⟩
  · rw [hparameter, parameter_congr hquoted]
    decide +kernel
  · exact absurd ((parameter_normal_form _).2.2.2.2 _ hword hother h) (by decide)

end SqlBuilder.Column
