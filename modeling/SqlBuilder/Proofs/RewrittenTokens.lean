import SqlBuilder.Proofs.ColumnParameters
import SqlBuilder.Proofs.PositionalTokens

/-!
# The tokens of rewritten text

A marker takes the place of a colon and a name.  With it every character next to a parameter gets
another neighbour, and what a colon is, a cast, the beginning of a parameter or nothing at all,
depends on the character behind it.  Still no token is read in another way.  Taken apart once more,
the rewritten text gives the tokens of the original with the characters of a marker in place of each
parameter (`tokens_marked`).  The one case that needs an argument is a colon that begins nothing: no
parameter can stand behind it, since the two would have been read as a cast (`head?_marked`).

So no parameter is left, and rewriting what has been rewritten changes nothing.
-/
namespace SqlBuilder

/-! ## The characters of markers -/

namespace Dialect

variable (dialect : Dialect) (number : Nat)

/-- The character that a marker begins with. -/
def sign : Dialect → Char
  | postgres => '$'
  | mysql => '?'
  | sqlite => '?'

/-- The digits behind it. -/
def numeral : List Char :=
  match dialect with
  | postgres => Nat.toDigits 10 number
  | mysql => []
  | sqlite => []

theorem toList_marker :
    (dialect.marker number).toList = dialect.sign :: dialect.numeral number := by
  cases dialect with
  | postgres =>
    rw [marker, String.toList_append, Nat.toString_eq_repr, Nat.toList_repr]
    rfl
  | mysql => rw [marker, numeral]; decide
  | sqlite => rw [marker, numeral]; decide

variable {dialect number}

theorem isDigit_of_mem_numeral {c : Char} (h : c ∈ dialect.numeral number) :
    c.isDigit = true := by
  cases dialect with
  | postgres => exact Nat.isDigit_of_mem_toDigits (by decide) (by decide) h
  | mysql => cases h
  | sqlite => cases h

theorem isPart_sign : Word.isPart dialect.sign = false := by
  cases dialect <;> decide

theorem isQuote_sign : Positional.isQuote dialect.sign = false := by
  cases dialect <;> decide

theorem sign_ne_colon : dialect.sign ≠ ':' := by
  cases dialect <;> decide

end Dialect

namespace Positional

/-- A character that begins neither a quotation nor anything else. -/
structure IsOrdinary (c : Char) : Prop where
  ne_colon : c ≠ ':'
  isQuote_eq : isQuote c = false

theorem isOrdinary_of_isPart {c : Char} (h : Word.isPart c = true) : IsOrdinary c where
  ne_colon := by
    rintro rfl
    exact absurd h (by decide)
  isQuote_eq := Word.isQuote_of_isPart h

theorem isOrdinary_of_mem_marker {dialect : Dialect} {number : Nat} {c : Char}
    (h : c ∈ (dialect.marker number).toList) : IsOrdinary c := by
  rw [Dialect.toList_marker, List.mem_cons] at h
  rcases h with rfl | h
  · exact ⟨Dialect.sign_ne_colon, Dialect.isQuote_sign⟩
  · exact isOrdinary_of_isPart (Word.isPart_of_isDigit (Dialect.isDigit_of_mem_numeral h))

/-! ## Tokens in front of any rest -/

theorem tokens_colons (rest : List Char) : tokens (':' :: ':' :: rest) = .cast :: tokens rest := by
  rw [tokens]

theorem tokens_cons_of_isQuote {c : Char} (h : isQuote c = true) (rest : List Char) :
    tokens (c :: rest) = .quoted (c :: quotation c rest) :: tokens (behindQuotation c rest) := by
  rw [tokens, if_pos h]
  rintro rest rfl
  exact absurd h (by decide)

theorem tokens_cons_of_isOrdinary {c : Char} (h : IsOrdinary c) (rest : List Char) :
    tokens (c :: rest) = .other c :: tokens rest := by
  rw [tokens, if_neg (Bool.eq_false_iff.mp h.isQuote_eq), if_neg fun hc => h.ne_colon hc.1]
  rintro rest rfl
  exact absurd rfl h.ne_colon

/-- A colon in front of neither another colon nor a name. -/
theorem tokens_lone_colon {rest : List Char} (hcolon : rest.head? ≠ some ':')
    (hstart : rest.head?.any Word.isStart = false) :
    tokens (':' :: rest) = .other ':' :: tokens rest := by
  rw [tokens, if_neg (by decide), if_neg fun h => Bool.eq_false_iff.mp hstart h.2]
  rintro rest - rfl
  exact hcolon rfl

/-- Every ordinary character is a token of its own, whatever follows. -/
theorem tokens_append_of_isOrdinary {text : List Char} (h : ∀ c ∈ text, IsOrdinary c)
    (rest : List Char) : tokens (text ++ rest) = text.map .other ++ tokens rest := by
  induction text with
  | nil => rfl
  | cons c text ih =>
    rw [List.cons_append, tokens_cons_of_isOrdinary (h c List.mem_cons_self),
      ih fun d hd => h d (List.mem_cons_of_mem c hd)]
    rfl

theorem quotation_cons (closing c : Char) (text : List Char) :
    quotation closing (c :: text) =
      c :: if c = closing then [] else quotation closing text := by
  by_cases hc : c = closing <;> simp [quotation, hc]

theorem behindQuotation_cons (closing c : Char) (text : List Char) :
    behindQuotation closing (c :: text) =
      if c = closing then text else behindQuotation closing text := by
  by_cases hc : c = closing <;> simp [behindQuotation, hc]

theorem behindQuotation_of_not_mem {closing : Char} {text : List Char} (h : closing ∉ text) :
    behindQuotation closing text = [] := by
  induction text with
  | nil => rfl
  | cons c text ih =>
    rw [List.mem_cons, not_or] at h
    rw [behindQuotation_cons, if_neg fun e => h.1 e.symm, ih h.2]

/-- A quotation ends where it ended, whatever follows, unless it was never closed. -/
theorem quotation_append {closing : Char} {text more : List Char}
    (h : closing ∉ text → more = []) :
    quotation closing (quotation closing text ++ more) = quotation closing text ∧
      behindQuotation closing (quotation closing text ++ more) = more := by
  induction text with
  | nil =>
    rw [h List.not_mem_nil]
    exact ⟨rfl, rfl⟩
  | cons c text ih =>
    rw [quotation_cons, List.cons_append, quotation_cons, behindQuotation_cons]
    by_cases hc : c = closing
    · simp only [hc, if_true, List.nil_append, and_self]
    · simp only [hc, if_false]
      have hrest := ih fun hnot => h fun hin =>
        (List.mem_cons.mp hin).elim (fun e => hc e.symm) hnot
      exact ⟨congrArg (c :: ·) hrest.1, hrest.2⟩

/-! ## The text with its markers, taken apart again -/

/-- Tokens with the characters of markers in place of the parameters. -/
def rewritten (dialect : Dialect) : Nat → List Token → List Token
  | _, [] => []
  | number, .parameter _ :: ts =>
      (dialect.marker number).toList.map .other ++ rewritten dialect (number + 1) ts
  | number, t :: ts => t :: rewritten dialect number ts

variable (dialect : Dialect)

/-- The rewritten text begins as the text did, or with a marker where a parameter was. -/
theorem head?_marked (number : Nat) (text : List Char) :
    (marked dialect number (tokens text)).head? = text.head? ∨
      text.head? = some ':' ∧
        (marked dialect number (tokens text)).head? = some dialect.sign := by
  fun_cases tokens text with
  | case1 => exact .inl rfl
  | case2 rest => exact .inl rfl
  | case3 c rest _ hquote => exact .inl rfl
  | case4 c rest _ hquote hparameter =>
    refine .inr ⟨congrArg some hparameter.1, ?_⟩
    rw [marked, Dialect.toList_marker]
    rfl
  | case5 c rest _ hquote hparameter => exact .inl rfl

theorem head?_marked_of_ne_colon {text : List Char} (h : text.head? ≠ some ':') (number : Nat) :
    (marked dialect number (tokens text)).head? = text.head? :=
  (head?_marked dialect number text).resolve_right fun hcolon => h hcolon.1

/-- A quotation in front of rewritten text.  One that is never closed reaches to the end, and then
nothing follows it here either. -/
theorem quotation_append_marked (closing : Char) (number : Nat) (text : List Char) :
    let rest := marked dialect number (tokens (behindQuotation closing text))
    quotation closing (quotation closing text ++ rest) = quotation closing text ∧
      behindQuotation closing (quotation closing text ++ rest) = rest := by
  refine quotation_append fun hnot => ?_
  rw [behindQuotation_of_not_mem hnot, tokens, marked]

/-- **No token is read in another way** in the rewritten text. -/
theorem tokens_marked (number : Nat) (text : List Char) :
    tokens (marked dialect number (tokens text)) = rewritten dialect number (tokens text) := by
  -- By the first pass over the text; each parameter in it moves the number on.
  fun_induction tokens text generalizing number with
  | case1 => rw [marked, tokens, rewritten]
  | case2 rest ih =>
    have hcast : marked dialect number (.cast :: tokens rest) =
        ':' :: ':' :: marked dialect number (tokens rest) := rfl
    rw [hcast, tokens_colons, ih]
    rfl
  | case3 c rest _ hquote ih =>
    obtain ⟨hquotation, hbehind⟩ := quotation_append_marked dialect c number rest
    have hquoted : marked dialect number
          (.quoted (c :: quotation c rest) :: tokens (behindQuotation c rest)) =
        c :: (quotation c rest ++ marked dialect number (tokens (behindQuotation c rest))) := rfl
    rw [hquoted, tokens_cons_of_isQuote hquote, hquotation, hbehind, ih]
    rfl
  | case4 c rest _ hquote hparameter ih =>
    rw [marked, tokens_append_of_isOrdinary fun d => isOrdinary_of_mem_marker, ih, rewritten]
  | case5 c rest hcast hquote hparameter ih =>
    have hother : marked dialect number (.other c :: tokens rest) =
        c :: marked dialect number (tokens rest) := rfl
    rw [hother]
    by_cases hc : c = ':'
    · -- A colon by itself: what follows begins as it did, or with a sign, so it stays by itself.
      subst hc
      have hcolon : rest.head? ≠ some ':' := by
        intro h
        obtain ⟨more, rfl⟩ := List.head?_eq_some_iff.mp h
        exact hcast more rfl rfl
      have hstart : rest.head?.any Word.isStart = false := by simpa using hparameter
      have hhead := head?_marked_of_ne_colon dialect hcolon number
      rw [← hhead] at hcolon hstart
      rw [tokens_lone_colon hcolon hstart, ih]
      rfl
    · rw [tokens_cons_of_isOrdinary ⟨hc, Bool.eq_false_iff.mpr hquote⟩, ih]
      rfl

theorem parameters_rewritten (number : Nat) (ts : List Token) :
    parameters (rewritten dialect number ts) = [] := by
  induction ts generalizing number with
  | nil => rfl
  | cons t ts ih =>
    cases t with
    | parameter name =>
      rw [rewritten, parameters, List.filterMap_append, List.filterMap_map]
      exact List.append_eq_nil_iff.mpr ⟨List.filterMap_eq_nil_iff.mpr fun _ _ => rfl, ih _⟩
    | quoted text | cast | other c => exact ih number

/-! ## A second pass -/

/-- Where there is no parameter, nothing is replaced and nothing can fail. -/
theorem substitute_of_no_parameters (bindings : Bindings) {ts : List Token}
    (h : parameters ts = []) :
    substitute dialect bindings ts = .ok ⟨String.ofList (ts.flatMap Token.text), []⟩ := by
  have hmarked : marked dialect 1 ts = ts.flatMap Token.text := by
    induction ts with
    | nil => rfl
    | cons t ts ih =>
      have ht : t.parameter? = none :=
        List.filterMap_eq_nil_iff.mp h t List.mem_cons_self
      have hts : parameters ts = [] := by
        rw [parameters, List.filterMap_cons_none ht] at h
        exact h
      rw [marked_cons dialect ht, ih hts, List.flatMap_cons]
  refine (substitute_eq_ok_iff dialect bindings).mpr ⟨?_, ?_⟩
  · rw [unbound?, h]
    rfl
  · rw [hmarked, h]
    rfl

end Positional

/-- **Rewriting is complete.**  Taken apart once more, rewritten text gives the tokens of the original
with the characters of a marker in place of each parameter: every other token stays what it was, and
no two pieces make a parameter or a cast.  So no parameter is left, and a second pass, with whatever
bindings and for whatever dialect, changes nothing and binds nothing. -/
theorem positional_of_rewritten {dialect : Dialect} {bindings : Bindings} {sql : String}
    {result : Positional.Result} (h : positional dialect bindings sql = .ok result) :
    Positional.tokens result.sql.toList =
        Positional.rewritten dialect 1 (Positional.tokens sql.toList) ∧
      Positional.parameters (Positional.tokens result.sql.toList) = [] ∧
      ∀ (other : Dialect) (others : Bindings),
        positional other others result.sql = .ok ⟨result.sql, []⟩ := by
  obtain ⟨-, rfl⟩ := (Positional.substitute_eq_ok_iff dialect bindings).mp
    ((Positional.positional_eq_ok_iff dialect bindings).mp h)
  have htokens := Positional.tokens_marked dialect 1 sql.toList
  have hnone := Positional.parameters_rewritten dialect 1 (Positional.tokens sql.toList)
  rw [← htokens] at hnone
  simp only [String.toList_ofList]
  refine ⟨htokens, hnone, fun other others => ?_⟩
  have hagain := Positional.substitute_of_no_parameters other others hnone
  rw [Positional.text_tokens] at hagain
  rw [Positional.positional_eq_ok_iff, String.toList_ofList, hagain]

/-- Parameters next to casts and to each other, a lone colon in front of a digit and a quotation that
is not closed. -/
theorem rewritten_of_adjacent_colons :
    let sql := ":a:::b:a : :1 ':a' x::`:a"
    let bindings := Ordered.ofList [(":a", Value.int32 1), (":b", .int32 2)]
    let written := "$1::$2$3 : :1 ':a' x::`:a"
    positional .postgres bindings sql = .ok ⟨written, [.int32 1, .int32 2, .int32 1]⟩ ∧
      positional .sqlite .empty written = .ok ⟨written, []⟩ := by
  intro sql bindings written
  have hmarked : String.ofList (Positional.marked .postgres 1 (Positional.tokens sql.toList)) =
      written := by
    decide +kernel
  have hparameters : Positional.parameters (Positional.tokens sql.toList) = [":a", ":b", ":a"] := by
    decide +kernel
  have hfirst : positional .postgres bindings sql =
      .ok ⟨written, [.int32 1, .int32 2, .int32 1]⟩ := by
    rw [Positional.positional_eq_ok_iff, Positional.substitute_eq_ok_iff, Positional.unbound?,
      hparameters, hmarked]
    exact ⟨rfl, rfl⟩
  exact ⟨hfirst, (positional_of_rewritten hfirst).2.2 .sqlite .empty⟩

end SqlBuilder
