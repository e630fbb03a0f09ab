import SqlBuilder.Proofs.ColumnParameters
import SqlBuilder.Proofs.FirstFailures
import SqlBuilder.Proofs.PositionalTokens

/-!
# Rewriting joined texts

What the machine of `Positional` carries along is the quotation, the colon or the name that it is
in, and the number of the values that it has bound.  Where it is in none of the three, only the
number counts for what follows: there a text can be cut in two and each part be rewritten by
itself, with the markers of the second part numbered on (`positional_append_eq`).

Whether a text ends in a quotation is a matter of its quotes alone, not of bindings
(`openQuote?`); the machine keeps track of just that, step by step (`quote?_step`,
`quote?_foldlM_step`).  A colon or a name at the end of the first part comes to its own end if the
second part begins afresh, with neither another colon nor a character that would go on with the
name (`map_result_complete_of_beginsAfresh`).
-/
namespace SqlBuilder

namespace Positional

/-! ## Quotations along a text -/

/-- The quote that is open behind one more character, if any is. -/
def quoteBehind : Option Char → Char → Option Char
  | none, c => if isQuote c then some c else none
  | some closing, c => if c = closing then none else some closing

/-- The quote that a text leaves open.  A text without one ends outside of quotes. -/
def openQuote? (text : List Char) : Option Char := text.foldl quoteBehind none

/-- The quote that closes the quotation that the machine is in. -/
def Mode.quote? : Mode → Option Char
  | quoted closing => some closing
  | plain | colon | name _ => none

variable (dialect : Dialect) (bindings : Bindings)

theorem quote?_readPlain (s : State) (c : Char) :
    (s.readPlain c).mode.quote? = quoteBehind none c := by
  unfold State.readPlain
  by_cases hc : c = ':'
  · subst hc
    rfl
  · rw [if_neg hc]
    cases hquote : isQuote c <;> simp [quoteBehind, Mode.quote?, hquote]

/-- The characters of names open no quotation. -/
theorem quoteBehind_of_isPart {c : Char} (h : Word.isPart c = true) :
    quoteBehind none c = none := by
  rw [quoteBehind, Word.isQuote_of_isPart h, if_neg Bool.false_ne_true]

variable {dialect bindings}

/-- **A step of the machine follows the quotes.** -/
theorem quote?_step {s s' : State} {c : Char} (h : step dialect bindings s c = .ok s') :
    s'.mode.quote? = quoteBehind s.mode.quote? c := by
  unfold step at h
  -- By the mode: what the machine keeps to itself, a colon or a part of a name, is no quote.
  cases hmode : s.mode with
  | plain =>
    rw [hmode] at h
    cases h
    exact quote?_readPlain s c
  | quoted closing =>
    rw [hmode] at h
    cases h
    by_cases hc : c = closing <;> simp [quoteBehind, Mode.quote?, hc]
  | colon =>
    rw [hmode] at h
    dsimp only at h
    by_cases hcolon : c = ':'
    · rw [if_pos hcolon] at h
      cases h
      subst hcolon
      rfl
    · rw [if_neg hcolon] at h
      by_cases hstart : Word.isStart c = true
      · rw [if_pos hstart] at h
        cases h
        exact (quoteBehind_of_isPart (Word.isPart_of_isStart hstart)).symm
      · rw [if_neg hstart] at h
        cases h
        exact quote?_readPlain _ c
  | name reversed =>
    rw [hmode] at h
    dsimp only at h
    by_cases hpart : Word.isPart c = true
    · rw [if_pos hpart] at h
      cases h
      exact (quoteBehind_of_isPart hpart).symm
    · rw [if_neg hpart] at h
      obtain ⟨bound, -, hread⟩ := except_bind_eq_ok_iff.mp h
      cases hread
      exact quote?_readPlain bound c

/-- **A run of the machine follows the quotes** of the text that it reads. -/
theorem quote?_foldlM_step {s s' : State} {text : List Char}
    (h : text.foldlM (step dialect bindings) s = .ok s') :
    s'.mode.quote? = text.foldl quoteBehind s.mode.quote? := by
  induction text generalizing s with
  | nil =>
    cases h
    rfl
  | cons c text ih =>
    rw [List.foldlM_cons] at h
    obtain ⟨next, hstep, hrest⟩ := except_bind_eq_ok_iff.mp h
    rw [List.foldl_cons, ← quote?_step hstep]
    exact ih hrest

/-! ## Where a text can be cut -/

/-- Whether a text begins with neither a colon nor a character that would go on with a name. -/
def BeginsAfresh (text : List Char) : Prop := ∀ c ∈ text.head?, c ≠ ':' ∧ Word.isPart c = false

theorem BeginsAfresh.endsName {text : List Char} (h : BeginsAfresh text) :
    endsName text = true := by
  cases text with
  | nil => rfl
  | cons c rest =>
    obtain ⟨-, hpart⟩ := h c rfl
    simp [Positional.endsName, hpart]

/-- The machine outside of quotes, casts and parameters, with what it has written and bound. -/
def State.outside (s : State) : State := { s with mode := .plain }

variable (dialect bindings)

theorem complete_append (s : State) (text more : List Char) :
    complete dialect bindings s (text ++ more) =
      (text.foldlM (step dialect bindings) s).bind fun s => complete dialect bindings s more := by
  unfold complete
  rw [List.foldlM_append]
  cases text.foldlM (step dialect bindings) s <;> rfl

/-- Behind a colon, a character that makes nothing of it is read as from outside. -/
theorem step_behind_colon {s : State} (hs : s.mode = .colon) {c : Char} (hcolon : c ≠ ':')
    (hpart : Word.isPart c = false) :
    step dialect bindings s c = .ok ((s.write [':']).readPlain c) := by
  have hstart : ¬ Word.isStart c = true := by
    intro h
    exact Bool.eq_false_iff.mp hpart (Word.isPart_of_isStart h)
  unfold step
  rw [hs]
  dsimp only
  rw [if_neg hcolon, if_neg hstart]

/-- **Behind a cut**, the machine reads as from outside, after it has ended what it was reading. -/
theorem map_result_complete_of_beginsAfresh {s : State} (hs : s.mode.quote? = none)
    {more : List Char} (hmore : BeginsAfresh more) :
    (complete dialect bindings s more).map State.result =
      (finish dialect bindings s).bind fun s =>
        (complete dialect bindings s.outside more).map State.result := by
  cases hmode : s.mode with
  | plain =>
    have hfinish : finish dialect bindings s = .ok s := by rw [finish, hmode]
    have houtside : s.outside = s := by rw [State.outside, ← hmode]
    rw [hfinish, Except.bind, houtside]
  | quoted closing =>
    rw [hmode] at hs
    cases hs
  | colon =>
    -- The end of a text leaves the mode as it is, so only the results are the same here.
    have hfinish : finish dialect bindings s = .ok (s.write [':']) := by rw [finish, hmode]
    rw [hfinish, Except.bind]
    cases more with
    | nil =>
      rw [complete_nil, hfinish]
      rfl
    | cons c rest =>
      obtain ⟨hcolon, hpart⟩ := hmore c rfl
      have hstep := step_behind_colon dialect bindings hmode hcolon hpart
      rw [complete_cons_of_step dialect bindings rest hstep,
        complete_cons_of_step dialect bindings (s := (s.write [':']).outside) rest rfl]
      rfl
  | name reversed =>
    have hfinish : finish dialect bindings s = s.bind dialect bindings reversed := by
      rw [finish, hmode]
    rw [hfinish, complete_end_of_name dialect bindings hmode hmore.endsName]
    cases hvalue : bindings.get? (String.ofList (':' :: reversed.reverse)) with
    | some value =>
      rw [State.bind_of_some dialect bindings hvalue]
      rfl
    | none =>
      rw [State.bind_of_none dialect bindings hvalue]
      rfl

/-- Both parts of a text that is cut outside of quotes, in front of a fresh beginning. -/
theorem map_result_complete_append {text more : List Char} (htext : openQuote? text = none)
    (hmore : BeginsAfresh more) :
    (complete dialect bindings start (text ++ more)).map State.result =
      (complete dialect bindings start text).bind fun s =>
        s.outside.substitute dialect bindings (tokens more) := by
  have hcomplete : complete dialect bindings start text =
      (text.foldlM (step dialect bindings) start).bind (finish dialect bindings) := rfl
  rw [complete_append, hcomplete]
  cases hrun : text.foldlM (step dialect bindings) start with
  | ok s =>
    have hs : s.mode.quote? = none := (quote?_foldlM_step hrun).trans htext
    have houtside : ∀ t : State, (complete dialect bindings t.outside more).map State.result =
        t.outside.substitute dialect bindings (tokens more) :=
      fun t => complete_tokens dialect bindings more rfl
    rw [Except.bind, Except.bind, map_result_complete_of_beginsAfresh dialect bindings hs hmore]
    simp only [houtside]
  | error problem => rfl

/-! ## Numbering on -/

/-- From a state on, tokens are substituted as from the start, but with markers numbered on. -/
theorem State.substitute_eq_map (s : State) (ts : List Token) :
    s.substitute dialect bindings ts =
      (Positional.substitute dialect bindings ts).map fun second =>
        ⟨s.result.sql ++ String.ofList (marked dialect (s.result.values.length + 1) ts),
          s.result.values ++ second.values⟩ := by
  unfold State.substitute Positional.substitute
  cases unbound? bindings ts with
  | some parameter => rfl
  | none => simp [Except.map, State.result]

/-- Joined texts are rewritten one after the other. -/
theorem positional_append_eq {sql more : String} (hsql : openQuote? sql.toList = none)
    (hmore : BeginsAfresh more.toList) :
    positional dialect bindings (sql ++ more) =
      (positional dialect bindings sql).bind fun first =>
        (positional dialect bindings more).map fun second =>
          ⟨first.sql ++
              String.ofList (marked dialect (first.values.length + 1) (tokens more.toList)),
            first.values ++ second.values⟩ := by
  rw [positional_eq, positional_eq dialect bindings sql, positional_eq_substitute,
    String.toList_append, map_result_complete_append dialect bindings hsql hmore]
  cases complete dialect bindings start sql.toList with
  | ok s =>
    rw [Except.bind, State.substitute_eq_map]
    cases Positional.substitute dialect bindings (tokens more.toList) <;> rfl
  | error problem => rfl

end Positional

/-- **Rewriting goes part by part.**  A text that ends outside of quotes and one that begins afresh
are rewritten together just if both are by themselves; otherwise the error is that of the first, or
else that of the second.  The values are those of the first and then those of the second, and so is
the text, but with the markers of the second numbered on from those of the first. -/
theorem positional_append {dialect : Dialect} {bindings : Bindings} {sql more : String}
    (hsql : Positional.openQuote? sql.toList = none)
    (hmore : Positional.BeginsAfresh more.toList) :
    (∀ error, positional dialect bindings (sql ++ more) = .error error ↔
      positional dialect bindings sql = .error error ∨
        (∃ first, positional dialect bindings sql = .ok first) ∧
          positional dialect bindings more = .error error) ∧
    ∀ first second, positional dialect bindings sql = .ok first →
      positional dialect bindings more = .ok second →
      let parts := Positional.tokens more.toList
      second.sql = String.ofList (Positional.marked dialect 1 parts) ∧
      positional dialect bindings (sql ++ more) = .ok
        ⟨first.sql ++ String.ofList (Positional.marked dialect (first.values.length + 1) parts),
          first.values ++ second.values⟩ := by
  have hjoined := Positional.positional_append_eq dialect bindings hsql hmore
  refine ⟨fun error => ?_, ?_⟩
  · rw [hjoined]
    cases positional dialect bindings sql with
    | error problem => simp [Except.bind]
    | ok first => cases positional dialect bindings more <;> simp [Except.bind, Except.map]
  · intro first second hfirst hsecond parts
    obtain ⟨-, rfl⟩ := (Positional.substitute_eq_ok_iff dialect bindings).mp
      ((Positional.positional_eq_ok_iff dialect bindings).mp hsecond)
    rw [hjoined, hfirst, hsecond]
    exact ⟨rfl, rfl⟩

/-- A cut behind a colon that begins nothing, with a quotation in each part, and a parameter that
stands in both. -/
theorem joined_behind_lone_colon :
    let sql := "UPDATE t SET a = :a, b = ':b' || x::int || :a:"
    let more := " WHERE a=:a AND `:k` > :b-1"
    let bindings := Ordered.ofList [(":b", Value.text "u"), (":a", .int32 1)]
    let fewer := Ordered.ofList [(":a", Value.int32 1)]
    Positional.openQuote? sql.toList = none ∧ Positional.BeginsAfresh more.toList ∧
      positional .postgres bindings more =
        .ok ⟨" WHERE a=$1 AND `:k` > $2-1", [.int32 1, .text "u"]⟩ ∧
      positional .postgres bindings (sql ++ more) = .ok
        ⟨"UPDATE t SET a = $1, b = ':b' || x::int || $2: WHERE a=$3 AND `:k` > $4-1",
          [.int32 1, .int32 1, .int32 1, .text "u"]⟩ ∧
      positional .postgres fewer (sql ++ more) = .error (.invalidQuery (.unbound ":b")) := by
  intro sql more bindings fewer
  have hsql : Positional.openQuote? sql.toList = none := by decide +kernel
  have hmore : Positional.BeginsAfresh more.toList := by
    have hhead : more.toList.head? = some ' ' := by decide +kernel
    intro c hc
    obtain rfl : ' ' = c := Option.some.inj (hhead.symm.trans hc)
    decide
  have hparameters : Positional.parameters (Positional.tokens sql.toList) = [":a", ":a"] := by
    decide +kernel
  have hmoreParameters : Positional.parameters (Positional.tokens more.toList) = [":a", ":b"] := by
    decide +kernel
  have hmarked : String.ofList (Positional.marked .postgres 1 (Positional.tokens sql.toList)) =
      "UPDATE t SET a = $1, b = ':b' || x::int || $2:" := by
    decide +kernel
  have hmoreMarked : String.ofList (Positional.marked .postgres 1 (Positional.tokens more.toList)) =
      " WHERE a=$1 AND `:k` > $2-1" := by
    decide +kernel
  have hmarkedOn : String.ofList (Positional.marked .postgres 3 (Positional.tokens more.toList)) =
      " WHERE a=$3 AND `:k` > $4-1" := by
    decide +kernel
  have hfirst : ∀ b : Bindings, b.get? ":a" = some (.int32 1) → positional .postgres b sql =
      .ok ⟨"UPDATE t SET a = $1, b = ':b' || x::int || $2:", [.int32 1, .int32 1]⟩ := by
    intro b hb
    rw [Positional.positional_eq_ok_iff, Positional.substitute_eq_ok_iff, Positional.unbound?,
      hparameters, hmarked]
    simp [hb]
  have hsecond : positional .postgres bindings more =
      .ok ⟨" WHERE a=$1 AND `:k` > $2-1", [.int32 1, .text "u"]⟩ := by
    rw [Positional.positional_eq_ok_iff, Positional.substitute_eq_ok_iff, Positional.unbound?,
      hmoreParameters, hmoreMarked]
    exact ⟨rfl, rfl⟩
  have hfails : positional .postgres fewer more = .error (.invalidQuery (.unbound ":b")) := by
    rw [Positional.positional_eq_substitute, Positional.substitute, Positional.unbound?,
      hmoreParameters]
    rfl
  obtain ⟨-, hjoined⟩ := (positional_append hsql hmore).2 _ _ (hfirst bindings rfl) hsecond
  refine ⟨hsql, hmore, hsecond, hjoined.trans ?_, ?_⟩
  · rw [List.length_cons, List.length_singleton, hmarkedOn]
    rfl
  · exact ((positional_append hsql hmore).1 _).mpr (.inr ⟨⟨_, hfirst fewer rfl⟩, hfails⟩)

end SqlBuilder
