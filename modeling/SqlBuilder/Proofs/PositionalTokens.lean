import Mathlib.Data.List.Basic
import Mathlib.Data.List.Find
import SqlBuilder.Proofs.PositionalMachine

/-!
# Rewriting in two steps

The machine of `Positional` finds parameters, looks them up, numbers them and copies everything else
in one pass.  Here the same is done in two steps that do not know of each other.  `tokens` takes the
text apart, and looks neither at bindings nor at the dialect; `substitute` replaces parameters, and
does not look at characters.  Nothing is lost in between (`text_tokens`), and both together are the
machine (`positional_eq_substitute`).

What the machine does with quotes and colons that have no partner can be read off `tokens`: a
quotation that is never closed reaches to the end of the text, and a colon that begins neither a cast
nor a parameter is a character like any other.
-/
namespace SqlBuilder.Positional

/-- A part of SQL text. -/
inductive Token where
  /-- Quoted text, with its quotes. -/
  | quoted (text : List Char)
  | cast
  /-- A colon and a name. -/
  | parameter (name : List Char)
  | other (c : Char)

namespace Token

def text : Token → List Char
  | quoted text => text
  | cast => [':', ':']
  | parameter name => ':' :: name
  | other c => [c]

/-- The parameter that a token is, as bindings know it. -/
def parameter? : Token → Option String
  | parameter name => some (String.ofList (':' :: name))
  | _ => none

end Token

/-! ## The first step -/

/-- What belongs to a quotation behind its opening quote: everything up to the closing quote and
that quote, or else the whole text. -/
def quotation (closing : Char) (text : List Char) : List Char :=
  text.takeWhile (· ≠ closing) ++ (text.dropWhile (· ≠ closing)).take 1

/-- The text behind a quotation. -/
def behindQuotation (closing : Char) (text : List Char) : List Char :=
  (text.dropWhile (· ≠ closing)).drop 1

theorem length_behindQuotation_le (closing : Char) (text : List Char) :
    (behindQuotation closing text).length ≤ text.length := by
  rw [behindQuotation, List.length_drop]
  have hdrop := (List.dropWhile_sublist (l := text) (· ≠ closing)).length_le
  omega

/-- Takes a text apart from left to right. -/
def tokens : List Char → List Token
  | [] => []
  | ':' :: ':' :: rest => .cast :: tokens rest
  | c :: rest =>
      if isQuote c then .quoted (c :: quotation c rest) :: tokens (behindQuotation c rest)
      else if c = ':' ∧ rest.head?.any Word.isStart then
        .parameter (rest.takeWhile Word.isPart) :: tokens (rest.dropWhile Word.isPart)
      else .other c :: tokens rest
termination_by text => text.length
decreasing_by
  · simp only [List.length_cons]
    omega
  · have hbehind := length_behindQuotation_le c rest
    simp only [List.length_cons]
    omega
  · have hdrop := (List.dropWhile_sublist (l := rest) Word.isPart).length_le
    simp only [List.length_cons]
    omega
  · simp only [List.length_cons]
    omega

theorem quotation_append_behindQuotation (closing : Char) (text : List Char) :
    quotation closing text ++ behindQuotation closing text = text := by
  rw [quotation, behindQuotation, List.append_assoc, List.take_append_drop,
    List.takeWhile_append_dropWhile]

/-- **Nothing is lost** when a text is taken apart. -/
theorem text_tokens (text : List Char) : (tokens text).flatMap Token.text = text := by
  fun_induction tokens text with
  | case1 => rfl
  | case2 rest ih => rw [List.flatMap_cons, ih, Token.text]; rfl
  | case3 c rest _ hquote ih =>
    rw [List.flatMap_cons, ih, Token.text, List.cons_append, quotation_append_behindQuotation]
  | case4 c rest _ hquote hparameter ih =>
    rw [List.flatMap_cons, ih, Token.text, hparameter.1, List.cons_append,
      List.takeWhile_append_dropWhile]
  | case5 c rest _ hquote hparameter ih =>
    rw [List.flatMap_cons, ih, Token.text]
    rfl

/-! ## The second step -/

/-- The parameters among tokens, in the order in which they are read. -/
def parameters (ts : List Token) : List String := ts.filterMap Token.parameter?

/-- The text of tokens, with their parameters marked in a dialect's way and numbered from the given
number on. -/
def marked (dialect : Dialect) : Nat → List Token → List Char
  | _, [] => []
  | number, .parameter _ :: ts =>
      (dialect.marker number).toList ++ marked dialect (number + 1) ts
  | number, t :: ts => t.text ++ marked dialect number ts

/-- The first parameter among tokens for which no value is bound. -/
def unbound? (bindings : Bindings) (ts : List Token) : Option String :=
  (parameters ts).find? fun parameter => (bindings.get? parameter).isNone

/-- Replaces parameters by markers and collects their values, or names the first that has none. -/
def substitute (dialect : Dialect) (bindings : Bindings) (ts : List Token) :
    Except QueryProblem Result :=
  match unbound? bindings ts with
  | some parameter => .error (.unbound parameter)
  | none => .ok ⟨String.ofList (marked dialect 1 ts), (parameters ts).filterMap bindings.get?⟩

variable (dialect : Dialect) (bindings : Bindings)

theorem marked_cons {t : Token} (ht : t.parameter? = none) (number : Nat) (ts : List Token) :
    marked dialect number (t :: ts) = t.text ++ marked dialect number ts := by
  cases t with
  | parameter name => cases ht
  | quoted text | cast | other c => rfl

/-- The same from a state on: behind what is written, and with numbers behind the values bound. -/
def State.substitute (s : State) (ts : List Token) : Except QueryProblem Result :=
  match unbound? bindings ts with
  | some parameter => .error (.unbound parameter)
  | none => .ok
      ⟨String.ofList (s.written.reverse ++ marked dialect (s.values.length + 1) ts),
        s.values.reverse ++ (parameters ts).filterMap bindings.get?⟩

theorem State.substitute_start (ts : List Token) :
    start.substitute dialect bindings ts = Positional.substitute dialect bindings ts := rfl

theorem State.substitute_nil (s : State) : s.substitute dialect bindings [] = .ok s.result := by
  simp [State.substitute, State.result, unbound?, parameters, marked]

/-- A token that is no parameter is copied. -/
theorem State.substitute_text (s : State) {t : Token} (ht : t.parameter? = none)
    (ts : List Token) :
    (s.write t.text).substitute dialect bindings ts = s.substitute dialect bindings (t :: ts) := by
  have hparameters : parameters (t :: ts) = parameters ts := List.filterMap_cons_none ht
  simp [State.substitute, unbound?, hparameters, marked_cons dialect ht]

/-- A parameter with a value becomes the next marker. -/
theorem State.substitute_bound (s : State) {name : List Char} {value : Value}
    (hvalue : bindings.get? (String.ofList (':' :: name)) = some value) (ts : List Token) :
    (s.bound dialect value).substitute dialect bindings ts =
      s.substitute dialect bindings (.parameter name :: ts) := by
  have hunbound : unbound? bindings (.parameter name :: ts) = unbound? bindings ts :=
    List.find?_cons_of_neg (by simp only [hvalue, Option.isNone_some, Bool.false_eq_true,
      not_false_iff])
  have hvalues : (parameters (.parameter name :: ts)).filterMap bindings.get? =
      value :: (parameters ts).filterMap bindings.get? := List.filterMap_cons_some hvalue
  rw [State.substitute, State.substitute, hunbound, hvalues]
  simp [State.bound, marked]

/-- A parameter without a value is the error. -/
theorem State.substitute_unbound (s : State) {name : List Char}
    (hvalue : bindings.get? (String.ofList (':' :: name)) = none) (ts : List Token) :
    s.substitute dialect bindings (.parameter name :: ts) =
      .error (.unbound (String.ofList (':' :: name))) := by
  have hunbound : unbound? bindings (.parameter name :: ts) =
      some (String.ofList (':' :: name)) :=
    List.find?_cons_of_pos (by simp only [hvalue, Option.isNone_none])
  rw [State.substitute, hunbound]

/-! ## Both steps are the machine -/

/-- The machine in quotes reads to the end of the quotation.  Where the text ends before it does, the
machine stays in quotes, but its result does not show that. -/
theorem complete_quotation {closing : Char} (text : List Char) {s : State}
    (hs : s.mode = .quoted closing) :
    (complete dialect bindings s text).map State.result =
      (complete dialect bindings { s.write (quotation closing text) with mode := .plain }
        (behindQuotation closing text)).map State.result := by
  induction text generalizing s with
  | nil =>
    obtain ⟨mode, written, values⟩ := s
    cases hs
    rfl
  | cons c text ih =>
    rw [complete_cons_of_step dialect bindings _ (step_quoted dialect bindings hs c)]
    by_cases hc : c = closing
    · subst hc
      simp [quotation, behindQuotation, modeOf]
    · have hwritten : quotation closing (c :: text) = c :: quotation closing text := by
        simp [quotation, hc]
      have hbehind : behindQuotation closing (c :: text) = behindQuotation closing text := by
        simp [behindQuotation, hc]
      rw [ih (by rw [if_neg hc]; rfl), hwritten, hbehind]
      simp [State.write]

theorem endsName_dropWhile (text : List Char) :
    endsName (text.dropWhile Word.isPart) = true := by
  have hhead := List.head?_dropWhile_not Word.isPart text
  unfold endsName
  cases hrest : (text.dropWhile Word.isPart).head? with
  | none => rfl
  | some c => simpa [hrest] using hhead

/-- From outside of quotes, the machine does to a text what substitution does to its tokens. -/
theorem complete_tokens (text : List Char) {s : State} (hs : s.mode = .plain) :
    (complete dialect bindings s text).map State.result =
      s.substitute dialect bindings (tokens text) := by
  fun_induction tokens text generalizing s with
  | case1 =>
    rw [State.substitute_nil, complete_nil, finish, hs]
    rfl
  | case2 rest ih =>
    rw [complete_colons dialect bindings hs, ih (by rw [State.mode_write, hs]),
      ← State.substitute_text dialect bindings s (t := .cast) rfl]
    rfl
  | case3 c rest _ hquote ih =>
    have hcolon : c ≠ ':' := by
      rintro rfl
      exact absurd hquote (by decide)
    have hmode : modeOf (if isQuote c then some c else none) = .quoted c := by
      rw [if_pos hquote]
      rfl
    rw [complete_cons_of_step dialect bindings _ (step_plain dialect bindings hs hcolon),
      complete_quotation dialect bindings _ hmode, ih rfl,
      ← State.substitute_text dialect bindings s (t := .quoted (c :: quotation c rest)) rfl]
    simp [State.substitute, State.write, Token.text]
  | case4 c rest _ hquote hparameter ih =>
    obtain ⟨rfl, hstart⟩ := hparameter
    obtain ⟨first, more, rfl⟩ : ∃ first more, rest = first :: more := by
      cases rest with
      | nil => cases hstart
      | cons first more => exact ⟨first, more, rfl⟩
    have hfirst : Word.isStart first = true := hstart
    -- The machine has read the first character before it takes the rest to be a name.
    have hpart := Word.isPart_of_isStart hfirst
    have hname : (first :: more).takeWhile Word.isPart = first :: more.takeWhile Word.isPart :=
      List.takeWhile_cons_of_pos hpart
    have hrest : (first :: more).dropWhile Word.isPart = more.dropWhile Word.isPart :=
      List.dropWhile_cons_of_pos hpart
    have hread := complete_parameter_append dialect bindings hs hfirst
      (List.all_takeWhile (l := more)) (endsName_dropWhile more)
    rw [List.cons_append, List.cons_append, List.takeWhile_append_dropWhile] at hread
    rw [hread, hname, hrest]
    rw [hrest] at ih
    cases hvalue : bindings.get? (String.ofList (':' :: first :: more.takeWhile Word.isPart)) with
    | some value =>
      rw [State.bind_of_some dialect bindings (by rw [List.reverse_reverse]; exact hvalue),
        ← State.substitute_bound dialect bindings s hvalue, ← ih rfl]
      rfl
    | none =>
      rw [State.bind_of_none dialect bindings (by rw [List.reverse_reverse]; exact hvalue),
        State.substitute_unbound dialect bindings s hvalue, List.reverse_reverse]
      rfl
  | case5 c rest hcast hquote hparameter ih =>
    have hkept := State.substitute_text dialect bindings s (t := .other c) rfl (tokens rest)
    rw [← hkept, ← ih (by rw [State.mode_write, hs])]
    -- A colon that begins nothing: the machine knows that only at the character behind it.
    by_cases hc : c = ':'
    · subst hc
      cases rest with
      | nil =>
        rw [complete_cons_of_step dialect bindings _ (step_colon dialect bindings hs)]
        obtain ⟨mode, written, values⟩ := s
        cases hs
        rfl
      | cons next rest =>
        have hnext : next ≠ ':' := by
          rintro rfl
          exact hcast rest rfl rfl
        have hstart : Word.isStart next = false := by simpa using hparameter
        rw [complete_lone_colon dialect bindings hs hnext hstart]
        rfl
    · rw [complete_cons_of_step dialect bindings _ (step_plain dialect bindings hs hc),
        if_neg hquote]
      obtain ⟨mode, written, values⟩ := s
      cases hs
      rfl

/-- **The machine takes two steps at once.** -/
theorem positional_eq_substitute (sql : String) :
    positional dialect bindings sql =
      (substitute dialect bindings (tokens sql.toList)).mapError .invalidQuery := by
  rw [positional_eq, complete_tokens dialect bindings _ rfl, State.substitute_start]

theorem positional_eq_ok_iff {sql : String} {result : Result} :
    positional dialect bindings sql = .ok result ↔
      substitute dialect bindings (tokens sql.toList) = .ok result := by
  rw [positional_eq_substitute]
  cases substitute dialect bindings (tokens sql.toList) with
  | ok other =>
    exact ⟨fun h => congrArg Except.ok (Except.ok.inj h),
      fun h => congrArg Except.ok (Except.ok.inj h)⟩
  | error problem => exact ⟨nofun, nofun⟩

theorem substitute_eq_ok_iff {ts : List Token} {result : Result} :
    substitute dialect bindings ts = .ok result ↔
      unbound? bindings ts = none ∧
        result = ⟨String.ofList (marked dialect 1 ts), (parameters ts).filterMap bindings.get?⟩ := by
  unfold substitute
  cases unbound? bindings ts with
  | some parameter => exact ⟨nofun, fun h => nomatch h.1⟩
  | none => exact ⟨fun h => ⟨rfl, (Except.ok.inj h).symm⟩, fun h => congrArg Except.ok h.2.symm⟩

/-! ## What the outcome depends on -/

variable {dialect bindings}

/-- Of the bindings, only what they say about the parameters that occur. -/
theorem substitute_congr {other : Bindings} {ts : List Token}
    (h : ∀ parameter ∈ parameters ts, other.get? parameter = bindings.get? parameter) :
    substitute dialect other ts = substitute dialect bindings ts := by
  have hunbound : unbound? other ts = unbound? bindings ts :=
    List.find?_congr fun parameter hparameter => by rw [h parameter hparameter]
  have hvalues : (parameters ts).filterMap other.get? =
      (parameters ts).filterMap bindings.get? := List.filterMap_congr h
  unfold substitute
  rw [hunbound, hvalues]

/-- Dialects differ in the text alone. -/
theorem map_values_substitute (dialect other : Dialect) (bindings : Bindings) (ts : List Token) :
    (substitute other bindings ts).map Result.values =
      (substitute dialect bindings ts).map Result.values := by
  unfold substitute
  cases unbound? bindings ts <;> rfl

end SqlBuilder.Positional

namespace SqlBuilder

/-- **Rewriting takes two steps.**  The first takes the text apart, without a loss; the second puts
markers in place of the parameters and collects their values, or names the first parameter that has
none, and nothing else can fail.  So bindings count only for the parameters that occur, and dialects
only for the look of the markers. -/
theorem positional_in_two_steps (dialect : Dialect) (bindings : Bindings) (sql : String) :
    (Positional.tokens sql.toList).flatMap Positional.Token.text = sql.toList ∧
      positional dialect bindings sql =
        (Positional.substitute dialect bindings (Positional.tokens sql.toList)).mapError
          .invalidQuery ∧
      (∀ other : Bindings,
        (∀ parameter ∈ Positional.parameters (Positional.tokens sql.toList),
          other.get? parameter = bindings.get? parameter) →
        positional dialect other sql = positional dialect bindings sql) ∧
      ∀ other : Dialect, (positional other bindings sql).map Positional.Result.values =
        (positional dialect bindings sql).map Positional.Result.values := by
  refine ⟨Positional.text_tokens _, Positional.positional_eq_substitute dialect bindings sql,
    ?_, ?_⟩
  · intro other hother
    rw [Positional.positional_eq_substitute, Positional.positional_eq_substitute,
      Positional.substitute_congr hother]
  · intro other
    have hcommute : ∀ x : Except QueryProblem Positional.Result,
        (x.mapError Error.invalidQuery).map Positional.Result.values =
          (x.map Positional.Result.values).mapError Error.invalidQuery := by
      intro x
      cases x <;> rfl
    rw [Positional.positional_eq_substitute, Positional.positional_eq_substitute, hcommute,
      hcommute, Positional.map_values_substitute dialect]

/-- A cast, quoted colons, two parameters with nothing between them, a lone colon and a quotation
that is not closed.  The bindings may come in another order, and with one that is not used. -/
theorem positional_of_adjacent_parameters :
    let sql := "v::int = :id:né_1 AND w = \":no\" OR : 1 \x60open :id"
    let bindings := Ordered.ofList [(":id", Value.int32 7), (":né_1", .text "u")]
    let other := Ordered.ofList [(":né_1", Value.text "u"), (":x", .null), (":id", .int32 7)]
    (∀ parameter ∈ Positional.parameters (Positional.tokens sql.toList),
        other.get? parameter = bindings.get? parameter) ∧
      positional .postgres other sql =
        .ok ⟨"v::int = $1$2 AND w = \":no\" OR : 1 \x60open :id", [.int32 7, .text "u"]⟩ := by
  intro sql bindings other
  have hparameters : Positional.parameters (Positional.tokens sql.toList) = [":id", ":né_1"] := by
    decide +kernel
  have hsame : ∀ parameter ∈ Positional.parameters (Positional.tokens sql.toList),
      other.get? parameter = bindings.get? parameter := by
    intro parameter hparameter
    rw [hparameters] at hparameter
    simp only [List.mem_cons, List.not_mem_nil, or_false] at hparameter
    rcases hparameter with rfl | rfl <;> rfl
  have hmarked : String.ofList (Positional.marked .postgres 1 (Positional.tokens sql.toList)) =
      "v::int = $1$2 AND w = \":no\" OR : 1 \x60open :id" := by
    decide +kernel
  obtain ⟨-, hsteps, hother, -⟩ := positional_in_two_steps .postgres bindings sql
  refine ⟨hsame, (hother other hsame).trans (hsteps.trans ?_)⟩
  rw [Positional.substitute, Positional.unbound?, hparameters, hmarked]
  rfl

end SqlBuilder
