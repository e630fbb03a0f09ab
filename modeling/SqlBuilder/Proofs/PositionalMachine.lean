import SqlBuilder.Connection.Positional

/-!
# Reading SQL text to its end

The machine of `Positional` reads one character at a time, and the end of a parameter's name shows
only in the character behind it.  So a text cannot be cut anywhere: what a prefix amounts to depends
on what follows.  The statements here keep the rest of the text in view.  `complete` reads what is
left from a given state to the end, and each lemma says what reading one fragment in front of an
arbitrary rest comes to:

* a **closed** fragment, which ends outside of quotes and has its colons there in pairs only, is
  written as it stands (`complete_closed_append`);
* a parameter in front of a rest that does not go on with its name is bound, or is the error
  (`complete_parameter_append`).
-/
namespace SqlBuilder.Positional

variable (dialect : Dialect) (bindings : Bindings)

/-- Reads what is left of a text, to its end. -/
def complete (s : State) (text : List Char) : Except QueryProblem State := do
  finish dialect bindings (← text.foldlM (step dialect bindings) s)

/-- The text written and the values bound, in order. -/
def State.result (s : State) : Result := ⟨String.ofList s.written.reverse, s.values.reverse⟩

theorem positional_eq (sql : String) :
    positional dialect bindings sql =
      ((complete dialect bindings start sql.toList).map State.result).mapError .invalidQuery := by
  unfold positional complete
  dsimp only
  cases h : (do finish dialect bindings (← sql.toList.foldlM (step dialect bindings) start)) with
  | ok s => rfl
  | error problem => rfl

theorem positional_of_complete {sql : String} {s : State}
    (h : complete dialect bindings start sql.toList = .ok s) :
    positional dialect bindings sql = .ok s.result := by
  rw [positional_eq, h]
  rfl

@[simp] theorem complete_nil (s : State) :
    complete dialect bindings s [] = finish dialect bindings s := rfl

theorem complete_cons (s : State) (c : Char) (text : List Char) :
    complete dialect bindings s (c :: text) =
      (step dialect bindings s c).bind fun s => complete dialect bindings s text := by
  unfold complete
  rw [List.foldlM_cons]
  cases step dialect bindings s c <;> rfl

/-- One character that the machine accepts. -/
theorem complete_cons_of_step {s s' : State} {c : Char} (text : List Char)
    (h : step dialect bindings s c = .ok s') :
    complete dialect bindings s (c :: text) = complete dialect bindings s' text := by
  rw [complete_cons, h]
  rfl

/-! ## Writing -/

@[simp] theorem State.mode_write (s : State) (text : List Char) : (s.write text).mode = s.mode :=
  rfl

@[simp] theorem State.values_write (s : State) (text : List Char) :
    (s.write text).values = s.values := rfl

@[simp] theorem State.written_write (s : State) (text : List Char) :
    (s.write text).written = text.reverse ++ s.written := rfl

/-! ## Closed text -/

/-- Whether a text ends outside of quotes and has no colons there except in pairs.  It is read from
inside the quotes that end with the given character, or from outside. -/
def closes : Option Char → List Char → Bool
  | none, [] => true
  | some _, [] => false
  | some closing, c :: rest => closes (if c = closing then none else some closing) rest
  | none, ':' :: ':' :: rest => closes none rest
  | none, c :: rest => c != ':' && closes (if isQuote c then some c else none) rest

/-- Text that the machine copies, whatever stands around it. -/
def isClosed (text : String) : Bool := closes none text.toList

/-- The machine's mode inside or outside of quotes. -/
def modeOf : Option Char → Mode
  | none => .plain
  | some closing => .quoted closing

theorem step_quoted {s : State} {closing : Char} (hs : s.mode = .quoted closing) (c : Char) :
    step dialect bindings s c =
      .ok { s.write [c] with mode := modeOf (if c = closing then none else some closing) } := by
  unfold step
  rw [hs]
  by_cases hc : c = closing
  · simp [hc, modeOf]
  · simp [hc, modeOf]

theorem step_plain {s : State} (hs : s.mode = .plain) {c : Char} (hc : c ≠ ':') :
    step dialect bindings s c =
      .ok { s.write [c] with mode := modeOf (if isQuote c then some c else none) } := by
  unfold step
  rw [hs]
  by_cases hq : isQuote c = true
  · simp [State.readPlain, hc, hq, modeOf]
  · simp [State.readPlain, hc, hq, modeOf]

theorem step_colon {s : State} (hs : s.mode = .plain) :
    step dialect bindings s ':' = .ok { s with mode := .colon } := by
  unfold step
  rw [hs]
  rfl

theorem complete_colons {s : State} (hs : s.mode = .plain) (rest : List Char) :
    complete dialect bindings s (':' :: ':' :: rest) =
      complete dialect bindings (s.write [':', ':']) rest := by
  rw [complete_cons_of_step dialect bindings _ (step_colon dialect bindings hs)]
  refine complete_cons_of_step dialect bindings _ ?_
  obtain ⟨mode, written, values⟩ := s
  cases hs
  rfl

/-- Closed text in front of any rest is written as it stands; from inside quotes, so is the text
that closes them. -/
theorem complete_append_of_closes {closing : Option Char} {text : List Char}
    (h : closes closing text = true) (rest : List Char) {s : State} (hs : s.mode = modeOf closing) :
    complete dialect bindings s (text ++ rest) =
      complete dialect bindings { s.write text with mode := .plain } rest := by
  -- Along `closes`: the two ends, a character in quotes, a pair of colons, any other character.
  fun_induction closes closing text generalizing s with
  | case1 =>
    obtain ⟨mode, written, values⟩ := s
    cases hs
    rfl
  | case2 => cases h
  | case3 closing c text ih =>
    rw [List.cons_append, complete_cons_of_step dialect bindings _
      (step_quoted dialect bindings hs c), ih h rfl]
    simp [State.write]
  | case4 text ih =>
    rw [List.cons_append, List.cons_append, complete_colons dialect bindings hs,
      ih h (by rw [State.mode_write, hs])]
    simp [State.write]
  | case5 c text _ ih =>
    rw [Bool.and_eq_true, bne_iff_ne] at h
    rw [List.cons_append, complete_cons_of_step dialect bindings _
      (step_plain dialect bindings hs h.1), ih h.2 rfl]
    simp [State.write]

/-- **Closed text is copied.** -/
theorem complete_closed_append {text : String} (h : isClosed text = true) (rest : List Char)
    {s : State} (hs : s.mode = .plain) :
    complete dialect bindings s (text.toList ++ rest) =
      complete dialect bindings (s.write text.toList) rest := by
  rw [complete_append_of_closes dialect bindings h rest hs]
  obtain ⟨mode, written, values⟩ := s
  cases hs
  rfl

/-- A colon in front of a character that begins neither a word nor a cast is an ordinary one. -/
theorem complete_lone_colon {s : State} (hs : s.mode = .plain) {c : Char}
    (hcolon : c ≠ ':') (hstart : Word.isStart c = false) (rest : List Char) :
    complete dialect bindings s (':' :: c :: rest) =
      complete dialect bindings (s.write [':']) (c :: rest) := by
  have hthen : step dialect bindings { s with mode := .colon } c =
      step dialect bindings (s.write [':']) c := by
    simp only [step, if_neg hcolon, hstart, State.mode_write, hs]
    rfl
  rw [complete_cons_of_step dialect bindings _ (step_colon dialect bindings hs), complete_cons,
    hthen, ← complete_cons]

/-! ## Parameters -/

/-- The state behind a parameter that stands for a value. -/
def State.bound (s : State) (value : Value) : State :=
  { s.write (dialect.marker (s.values.length + 1)).toList with
    mode := .plain
    values := value :: s.values }

theorem State.bind_of_some {s : State} {reversed : List Char} {value : Value}
    (h : bindings.get? (String.ofList (':' :: reversed.reverse)) = some value) :
    s.bind dialect bindings reversed = .ok (s.bound dialect value) := by
  simp only [State.bind, h]
  rfl

theorem State.bind_of_none {s : State} {reversed : List Char}
    (h : bindings.get? (String.ofList (':' :: reversed.reverse)) = none) :
    s.bind dialect bindings reversed =
      .error (.unbound (String.ofList (':' :: reversed.reverse))) := by
  simp only [State.bind, h]

/-- Behind a parameter the machine is outside of quotes, so that what follows is read as from
there. -/
theorem complete_bound (s : State) (value : Value) (c : Char) (rest : List Char) :
    complete dialect bindings (s.bound dialect value) (c :: rest) =
      complete dialect bindings ((s.bound dialect value).readPlain c) rest :=
  complete_cons_of_step dialect bindings rest rfl

/-- Whether the rest of a text does not go on with a name. -/
def endsName (rest : List Char) : Bool := !rest.head?.any Word.isPart

/-- What the end of a name comes to, when it is seen only in the character behind it. -/
theorem complete_end_of_name {reversed rest : List Char} {s : State} (hs : s.mode = .name reversed)
    (hrest : endsName rest = true) :
    complete dialect bindings s rest =
      (s.bind dialect bindings reversed).bind fun s => complete dialect bindings s rest := by
  cases rest with
  | nil =>
    rw [complete_nil, finish, hs]
    cases hb : bindings.get? (String.ofList (':' :: reversed.reverse)) with
    | some value => simp only [State.bind_of_some dialect bindings hb]; rfl
    | none => simp only [State.bind_of_none dialect bindings hb]; rfl
  | cons c rest =>
    have hc : Word.isPart c = false := by simpa [endsName] using hrest
    have hstep : step dialect bindings s c =
        (s.bind dialect bindings reversed).bind fun s => .ok (s.readPlain c) := by
      unfold step
      rw [hs]
      simp only [hc, Bool.false_eq_true, if_false]
      rfl
    -- The step binds the name and reads `c` as well; from the bound state, `c` is an ordinary step.
    rw [complete_cons, hstep]
    cases hb : bindings.get? (String.ofList (':' :: reversed.reverse)) with
    | some value =>
      rw [State.bind_of_some dialect bindings hb]
      exact (complete_bound dialect bindings s value c rest).symm
    | none =>
      rw [State.bind_of_none dialect bindings hb]
      rfl

/-- From inside a name, the machine reads on to the end of the name and binds it. -/
theorem complete_name_append {reversed name rest : List Char} {s : State}
    (hs : s.mode = .name reversed) (hname : name.all Word.isPart = true)
    (hrest : endsName rest = true) :
    complete dialect bindings s (name ++ rest) =
      (s.bind dialect bindings (name.reverse ++ reversed)).bind fun s =>
        complete dialect bindings s rest := by
  induction name generalizing reversed s with
  | nil => exact complete_end_of_name dialect bindings hs hrest
  | cons c name ih =>
    rw [List.all_cons, Bool.and_eq_true] at hname
    have hstep : step dialect bindings s c = .ok { s with mode := .name (c :: reversed) } := by
      unfold step
      rw [hs]
      simp only [hname.1, if_true]
    rw [List.cons_append, complete_cons_of_step dialect bindings _ hstep, ih rfl hname.2,
      List.reverse_cons, List.append_assoc]
    rfl

/-- **A parameter is bound** when the rest of the text does not go on with its name. -/
theorem complete_parameter_append {first : Char} {name rest : List Char} {s : State}
    (hs : s.mode = .plain) (hfirst : Word.isStart first = true)
    (hname : name.all Word.isPart = true) (hrest : endsName rest = true) :
    complete dialect bindings s (':' :: first :: name ++ rest) =
      (s.bind dialect bindings (first :: name).reverse).bind fun s =>
        complete dialect bindings s rest := by
  have hne : first ≠ ':' := by
    rintro rfl
    exact absurd hfirst (by decide)
  have hstart : step dialect bindings { s with mode := .colon } first =
      .ok { s with mode := .name [first] } := by
    simp only [step, if_neg hne, hfirst, if_true]
  rw [List.cons_append, List.cons_append,
    complete_cons_of_step dialect bindings _ (step_colon dialect bindings hs),
    complete_cons_of_step dialect bindings _ hstart,
    complete_name_append dialect bindings rfl hname hrest, List.reverse_cons]
  rfl

end SqlBuilder.Positional
