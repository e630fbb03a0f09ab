import SqlBuilder.Proofs.RewrittenTokens

/-!
# What the driver reads in rewritten text

A driver knows nothing of parameters.  It finds the markers in the text that it is sent, and has to
find as many as it is sent values.  `occurrences` is how it looks for them: it skips quotations, by
the same rule as rewriting does, and takes every occurrence of the sign of markers together with the
digits behind it.  Where the original text has no such sign outside of its quotes, the occurrences in
the rewritten text are the markers (`occurrences_marked`).

Their numbers are read as they were written, since no digit can follow one.  What follows a parameter
does not go on with its name, and digits would; and where another parameter follows, its marker begins
with the sign.
-/
namespace SqlBuilder

namespace Positional

/-- The occurrences of a character outside of quotes, each by the text behind it. -/
def occurrences (sign : Char) : List Char → List (List Char)
  | [] => []
  | c :: rest =>
      if isQuote c then occurrences sign (behindQuotation c rest)
      else if c = sign then rest :: occurrences sign rest
      else occurrences sign rest
termination_by text => text.length
decreasing_by
  · have hbehind := length_behindQuotation_le c rest
    simp only [List.length_cons]
    omega
  all_goals
    simp only [List.length_cons]
    omega

/-- The quoted parts of a text, with their quotes. -/
def quotations : List Char → List (List Char)
  | [] => []
  | c :: rest =>
      if isQuote c then (c :: quotation c rest) :: quotations (behindQuotation c rest)
      else quotations rest
termination_by text => text.length
decreasing_by
  · have hbehind := length_behindQuotation_le c rest
    simp only [List.length_cons]
    omega
  · simp only [List.length_cons]
    omega

/-! ## Quotations are kept -/

namespace Token

/-- The text of a quotation. -/
def quoted? : Token → Option (List Char)
  | quoted text => some text
  | _ => none

end Token

theorem quotations_append {text : List Char} (h : ∀ c ∈ text, isQuote c = false)
    (rest : List Char) : quotations (text ++ rest) = quotations rest := by
  induction text with
  | nil => rfl
  | cons c text ih =>
    rw [List.cons_append, quotations, if_neg (Bool.eq_false_iff.mp (h c List.mem_cons_self)),
      ih fun d hd => h d (List.mem_cons_of_mem c hd)]

/-- The quoted parts of a text are the quotations among its tokens. -/
theorem filterMap_quoted?_tokens (text : List Char) :
    (tokens text).filterMap Token.quoted? = quotations text := by
  fun_induction tokens text with
  | case1 => rw [quotations]; rfl
  | case2 rest ih =>
    rw [List.filterMap_cons_none rfl, ih, quotations, if_neg (by decide), quotations,
      if_neg (by decide)]
  | case3 c rest _ hquote ih =>
    rw [quotations, if_pos hquote, ← ih]
    rfl
  | case4 c rest _ hquote hparameter ih =>
    -- The search for quotations goes through the name as well, character by character.
    have hname : ∀ d ∈ rest.takeWhile Word.isPart, isQuote d = false := fun d hd =>
      Word.isQuote_of_isPart (List.all_eq_true.mp List.all_takeWhile d hd)
    rw [List.filterMap_cons_none rfl, ih, quotations, if_neg hquote]
    conv => rhs; rw [← List.takeWhile_append_dropWhile (p := Word.isPart) (l := rest)]
    rw [quotations_append hname]
  | case5 c rest _ hquote hparameter ih =>
    rw [List.filterMap_cons_none rfl, ih, quotations, if_neg hquote]

theorem filterMap_quoted?_rewritten (dialect : Dialect) (number : Nat) (ts : List Token) :
    (rewritten dialect number ts).filterMap Token.quoted? = ts.filterMap Token.quoted? := by
  induction ts generalizing number with
  | nil => rfl
  | cons t ts ih =>
    cases t with
    | parameter name =>
      have hmarker : ((dialect.marker number).toList.map Token.other).filterMap Token.quoted? = [] := by
        rw [List.filterMap_map]
        exact List.filterMap_eq_nil_iff.mpr fun _ _ => rfl
      rw [rewritten, List.filterMap_append, hmarker, List.nil_append, ih,
        List.filterMap_cons_none rfl]
    | quoted text => exact congrArg (text :: ·) (ih number)
    | cast | other c => exact ih number

/-! ## Markers are found -/

section Occurrences

variable {sign : Char}

/-- Characters that are skipped in the search. -/
theorem occurrences_append {text : List Char} (h : ∀ c ∈ text, isQuote c = false ∧ c ≠ sign)
    (rest : List Char) : occurrences sign (text ++ rest) = occurrences sign rest := by
  induction text with
  | nil => rfl
  | cons c text ih =>
    obtain ⟨hquote, hsign⟩ := h c List.mem_cons_self
    rw [List.cons_append, occurrences, if_neg (Bool.eq_false_iff.mp hquote), if_neg hsign,
      ih fun d hd => h d (List.mem_cons_of_mem c hd)]

theorem occurrences_cons_of_isQuote {c : Char} (h : isQuote c = true) (rest : List Char) :
    occurrences sign (c :: rest) = occurrences sign (behindQuotation c rest) := by
  rw [occurrences, if_pos h]

theorem occurrences_cons_self (h : isQuote sign = false) (rest : List Char) :
    occurrences sign (sign :: rest) = rest :: occurrences sign rest := by
  rw [occurrences, if_neg (Bool.eq_false_iff.mp h), if_pos rfl]

end Occurrences

variable (dialect : Dialect)

theorem colon_skipped : isQuote ':' = false ∧ ':' ≠ dialect.sign :=
  ⟨by decide, Dialect.sign_ne_colon.symm⟩

theorem skipped_of_isPart {c : Char} (h : Word.isPart c = true) :
    isQuote c = false ∧ c ≠ dialect.sign := by
  refine ⟨Word.isQuote_of_isPart h, ?_⟩
  rintro rfl
  exact absurd h (Bool.eq_false_iff.mp Dialect.isPart_sign)

/-- A marker is one occurrence of its sign, with its number behind it. -/
theorem occurrences_marker_append (number : Nat) (rest : List Char) :
    occurrences dialect.sign ((dialect.marker number).toList ++ rest) =
      (dialect.numeral number ++ rest) :: occurrences dialect.sign rest := by
  have hskip : ∀ c ∈ dialect.numeral number, isQuote c = false ∧ c ≠ dialect.sign :=
    fun c hc => skipped_of_isPart dialect
      (Word.isPart_of_isDigit (Dialect.isDigit_of_mem_numeral hc))
  rw [Dialect.toList_marker, List.cons_append, occurrences_cons_self Dialect.isQuote_sign,
    occurrences_append hskip]

/-- **No digit follows a number** where a text that does not go on with a name is rewritten. -/
theorem takeWhile_isDigit_numeral_append (number next : Nat) {rest : List Char}
    (h : endsName rest = true) :
    (dialect.numeral number ++ marked dialect next (tokens rest)).takeWhile Char.isDigit =
      dialect.numeral number := by
  have hhead : ∀ c, (marked dialect next (tokens rest)).head? = some c → c.isDigit = false := by
    intro c hc
    have hpart : Word.isPart c = false := by
      rcases head?_marked dialect next rest with hsame | ⟨-, hsign⟩
      · rw [hsame] at hc
        simpa [endsName, hc] using h
      · rw [hsign] at hc
        exact Option.some.inj hc ▸ Dialect.isPart_sign
    exact Bool.eq_false_iff.mpr fun hdigit =>
      Bool.eq_false_iff.mp hpart (Word.isPart_of_isDigit hdigit)
  have hstop : (marked dialect next (tokens rest)).takeWhile Char.isDigit = [] := by
    cases hmarked : marked dialect next (tokens rest) with
    | nil => rfl
    | cons c behind =>
      rw [hmarked] at hhead
      exact List.takeWhile_cons_of_neg (Bool.eq_false_iff.mp (hhead c rfl))
  rw [List.takeWhile_append_of_pos fun c => Dialect.isDigit_of_mem_numeral, hstop,
    List.append_nil]

/-- **The markers are what is found** in the rewritten text, with their numbers in order. -/
theorem occurrences_marked (number : Nat) {text : List Char}
    (h : occurrences dialect.sign text = []) :
    (occurrences dialect.sign (marked dialect number (tokens text))).map
        (List.takeWhile Char.isDigit) =
      (List.range' number (parameters (tokens text)).length).map dialect.numeral := by
  fun_induction tokens text generalizing number with
  | case1 =>
    rw [marked, occurrences]
    rfl
  | case2 rest ih =>
    have hskip : ∀ c ∈ [':', ':'], isQuote c = false ∧ c ≠ dialect.sign := by
      simpa using colon_skipped dialect
    have hrest := (occurrences_append hskip rest).symm.trans h
    rw [marked_cons dialect rfl, Token.text, occurrences_append hskip, ih number hrest]
    rfl
  | case3 c rest _ hquote ih =>
    have hbehind := (quotation_append_marked dialect c number rest).2
    rw [occurrences_cons_of_isQuote hquote] at h
    rw [marked_cons dialect rfl, Token.text, List.cons_append, occurrences_cons_of_isQuote hquote,
      hbehind, ih number h]
    rfl
  | case4 c rest _ hquote hparameter ih =>
    obtain ⟨rfl, -⟩ := hparameter
    have hskip : ∀ c ∈ ':' :: rest.takeWhile Word.isPart, isQuote c = false ∧ c ≠ dialect.sign := by
      intro c hc
      rcases List.mem_cons.mp hc with rfl | hc
      · exact colon_skipped dialect
      · exact skipped_of_isPart dialect (List.all_eq_true.mp List.all_takeWhile c hc)
    -- No sign is in the name, so none is behind it: the hypothesis holds of what is left.
    have hrest : occurrences dialect.sign (rest.dropWhile Word.isPart) = [] := by
      rw [← occurrences_append hskip, List.cons_append, List.takeWhile_append_dropWhile, h]
    have hcount : parameters (.parameter (rest.takeWhile Word.isPart) ::
          tokens (rest.dropWhile Word.isPart)) =
        String.ofList (':' :: rest.takeWhile Word.isPart) ::
          parameters (tokens (rest.dropWhile Word.isPart)) := rfl
    rw [marked, occurrences_marker_append, List.map_cons,
      takeWhile_isDigit_numeral_append dialect number _ (endsName_dropWhile rest),
      ih (number + 1) hrest, hcount, List.length_cons, List.range'_succ, List.map_cons]
  | case5 c rest hcast hquote hparameter ih =>
    have hskip : ∀ d ∈ [c], isQuote d = false ∧ d ≠ dialect.sign := by
      intro d hd
      obtain rfl := List.mem_singleton.mp hd
      refine ⟨Bool.eq_false_iff.mpr hquote, ?_⟩
      rintro rfl
      rw [occurrences_cons_self Dialect.isQuote_sign] at h
      cases h
    have hrest := (occurrences_append hskip rest).symm.trans h
    rw [marked_cons dialect rfl, Token.text, occurrences_append hskip, ih number hrest]
    rfl

/-- Every parameter is sent with a value. -/
theorem length_filterMap_of_unbound? {bindings : Bindings} {ts : List Token}
    (h : unbound? bindings ts = none) :
    ((parameters ts).filterMap bindings.get?).length = (parameters ts).length := by
  refine List.filterMap_length_eq_length.mpr fun parameter hparameter => ?_
  have hbound := List.find?_eq_none.mp h parameter hparameter
  rwa [Option.isNone_iff_eq_none, ← ne_eq, Option.ne_none_iff_isSome] at hbound

end Positional

/-- **The driver sees as many markers as values**, and reads their numbers in order.  Where the text
of a statement has no dollar sign outside of its quotes, the dollar signs outside of the quotes of the
rewritten text, each with all the digits behind it, are `$1` to `$n`, one for each of the `n` values.
Question marks, which are not numbered, are as many as the values if the text had none outside of its
quotes.  And the quoted parts are those of the text, to the character. -/
theorem markers_of_positional {dialect : Dialect} {bindings : Bindings} {sql : String}
    {result : Positional.Result} (h : positional dialect bindings sql = .ok result) :
    (dialect = .postgres → Positional.occurrences '$' sql.toList = [] →
        (Positional.occurrences '$' result.sql.toList).map
            (fun behind => String.ofList (behind.takeWhile Char.isDigit)) =
          (List.range result.values.length).map fun i => toString (i + 1)) ∧
      (dialect = .mysql ∨ dialect = .sqlite → Positional.occurrences '?' sql.toList = [] →
        (Positional.occurrences '?' result.sql.toList).length = result.values.length) ∧
      Positional.quotations result.sql.toList = Positional.quotations sql.toList := by
  obtain ⟨hbound, rfl⟩ := (Positional.substitute_eq_ok_iff dialect bindings).mp
    ((Positional.positional_eq_ok_iff dialect bindings).mp h)
  have hcount := Positional.length_filterMap_of_unbound? hbound
  simp only [String.toList_ofList, hcount]
  refine ⟨?_, fun hdialect hnone => ?_, ?_⟩
  · rintro rfl hnone
    have hmarkers := Positional.occurrences_marked .postgres 1 hnone
    have hnumbers := congrArg (List.map String.ofList) hmarkers
    rw [List.map_map, List.map_map, List.range'_eq_map_range, List.map_map] at hnumbers
    refine Eq.trans hnumbers (List.map_congr_left fun i _ => ?_)
    show String.ofList (Nat.toDigits 10 (1 + i)) = toString (i + 1)
    rw [Nat.add_comm, Nat.toString_eq_repr, Nat.repr_eq_ofList_toDigits]
  · have hsign : dialect.sign = '?' := by
      rcases hdialect with rfl | rfl <;> rfl
    have hmarkers := Positional.occurrences_marked dialect 1 (hsign ▸ hnone)
    rw [hsign] at hmarkers
    simpa using congrArg List.length hmarkers
  · rw [← Positional.filterMap_quoted?_tokens, Positional.tokens_marked,
      Positional.filterMap_quoted?_rewritten, Positional.filterMap_quoted?_tokens]

/-- Eleven parameters, most of them side by side, and a dollar sign in quotes. -/
theorem markers_of_eleven_parameters :
    let sql := "SELECT '$5:a' WHERE x IN (:a:a:a:a:a:a:a:a:a) AND y = :a-1 OR z = :a::int"
    let written := "SELECT '$5:a' WHERE x IN ($1$2$3$4$5$6$7$8$9) AND y = $10-1 OR z = $11::int"
    let bindings := Ordered.ofList [(":a", Value.int32 7)]
    positional .postgres bindings sql = .ok ⟨written, List.replicate 11 (.int32 7)⟩ ∧
      Positional.occurrences '$' sql.toList = [] ∧
      (Positional.occurrences '$' written.toList).map
          (fun behind => String.ofList (behind.takeWhile Char.isDigit)) =
        ["1", "2", "3", "4", "5", "6", "7", "8", "9", "10", "11"] ∧
      Positional.quotations written.toList = ["'$5:a'".toList] := by
  intro sql written bindings
  have hmarked : String.ofList (Positional.marked .postgres 1 (Positional.tokens sql.toList)) =
      written := by
    decide +kernel
  have hparameters : Positional.parameters (Positional.tokens sql.toList) =
      List.replicate 11 ":a" := by
    decide +kernel
  have hrewritten : positional .postgres bindings sql =
      .ok ⟨written, List.replicate 11 (.int32 7)⟩ := by
    rw [Positional.positional_eq_ok_iff, Positional.substitute_eq_ok_iff, Positional.unbound?,
      hparameters, hmarked]
    exact ⟨rfl, rfl⟩
  have hnone : Positional.occurrences '$' sql.toList = [] := by decide +kernel
  have hquoted : Positional.quotations sql.toList = ["'$5:a'".toList] := by decide +kernel
  obtain ⟨hnumbers, -, hquotations⟩ := markers_of_positional hrewritten
  exact ⟨hrewritten, hnone, (hnumbers rfl hnone).trans (by decide), hquotations.trans hquoted⟩

end SqlBuilder
