import Mathlib.Data.List.Forall2
import SqlBuilder.Json.Printer
import SqlBuilder.Json.Reading
import SqlBuilder.Proofs.JsonRoundTrip

/-!
# JSON text that is read again

The compact text of a JSON value is read as an outline in which the value stands
(`Json.HasWholeNumbers.exists_ofString`).  Real numbers are left aside: they are written in the fewest
digits, and not always read as the same number.

The reader is a machine: `Outline.value` reads a value inside the containers that are still open, and
goes on behind it by `Outline.after`.  So what is proved of a text is that the machine comes from the
one to the other with the outline, whatever is open and whatever follows (`ReadsAs`); only a numeral
asks that what follows does not go on with it.
-/
namespace SqlBuilder

/-! ## Values and their outlines -/

namespace Json

mutual

/-- What an outline has to say for a value to stand in it.  The members of an object may come in any
order. -/
inductive IsShownBy : Json → Outline → Prop
  | null : IsShownBy .null .null
  | bool (b : Bool) : IsShownBy (.bool b) (.bool b)
  | number {n : JsonNumber} {numeral : Numeral} (h : numeral.value? = some n) :
      IsShownBy (.number n) (.number numeral)
  | string {s : String} {literal : Literal} (h : literal.text = .ok s) :
      IsShownBy (.string s) (.string literal)
  | array {items : List Json} {outlines : List Outline}
      (h : List.Forall₂ IsShownBy items outlines) : IsShownBy (.array items) (.array outlines none)
  | object {members written : List (String × Json)} {outlines : List (Literal × Outline)}
      (hperm : written.Perm members) (h : List.Forall₂ IsMemberShownBy written outlines) :
      IsShownBy (.object members) (.object outlines none)

inductive IsMemberShownBy : String × Json → Literal × Outline → Prop
  | mk {name : String} {json : Json} {literal : Literal} {outline : Outline}
      (hname : literal.text = .ok name) (hvalue : IsShownBy json outline) :
      IsMemberShownBy (name, json) (literal, outline)

end

/-- Every number in a value is whole. -/
inductive HasWholeNumbers : Json → Prop
  | null : HasWholeNumbers .null
  | bool (b : Bool) : HasWholeNumbers (.bool b)
  | whole (n : Whole) : HasWholeNumbers (.number (.whole n))
  | string (s : String) : HasWholeNumbers (.string s)
  | array {items : List Json} (h : ∀ item ∈ items, HasWholeNumbers item) :
      HasWholeNumbers (.array items)
  | object {members : List (String × Json)} (h : ∀ member ∈ members, HasWholeNumbers member.2) :
      HasWholeNumbers (.object members)

theorem renderItems_eq (items : List Json) : renderItems items = items.map render := by
  induction items with
  | nil => rfl
  | cons item rest ih => rw [renderItems, ih, List.map_cons]

theorem renderMembers_eq (members : List (String × Json)) :
    renderMembers members =
      members.map fun member => renderString member.1 ++ ":" ++ member.2.render := by
  induction members with
  | nil => rfl
  | cons member rest ih => rw [renderMembers, ih, List.map_cons]

end Json

/-! ## Literals -/

namespace Literal

/-- A code unit below the surrogates is a character by itself. -/
theorem textOf_unit (fault : Option TextFault) {n : Nat} (h : n < 0xd800) (rest : List LiteralPart) :
    textOf fault (.unit n :: rest) = (textOf fault rest).map (Char.ofNat n :: ·) := by
  have hhigh : isHighSurrogate n = false := by
    simp only [isHighSurrogate, Bool.and_eq_false_iff, decide_eq_false_iff_not]
    omega
  have hlow : isLowSurrogate n = false := by
    simp only [isLowSurrogate, Bool.and_eq_false_iff, decide_eq_false_iff_not]
    omega
  cases rest with
  | nil =>
    simp only [textOf, hhigh, hlow]
    cases fault <;> rfl
  | cons part rest =>
    cases part with
    | char c =>
      simp only [textOf, hhigh, hlow]
      cases textOf fault rest <;> rfl
    | unit low =>
      simp only [textOf, hhigh, hlow]
      rfl

end Literal

namespace Outline

theorem literal_char {c : Char} (hquote : c ≠ '"') (hescape : c ≠ '\\') (hcontrol : ¬ c.toNat < 0x20)
    (rest : List Char) : literal (c :: rest) = Literal.prepend (.char c) (literal rest) := by
  rw [literal]
  · exact if_neg hcontrol
  all_goals simp_all

theorem literal_shortEscape {c escaped : Char} (hc : c ≠ 'u') (h : shortEscape? c = some escaped)
    (rest : List Char) :
    literal ('\\' :: c :: rest) = Literal.prepend (.char escaped) (literal rest) := by
  rw [literal]
  · simp only [h]
  all_goals simp_all

theorem literal_codeUnit {a b c d : Char} {n : Nat} (h : codeUnit? a b c d = some n)
    (rest : List Char) :
    literal ('\\' :: 'u' :: a :: b :: c :: d :: rest) =
      Literal.prepend (.unit n) (literal rest) := by
  rw [literal]
  simp only [h]

end Outline

namespace Json

/-- A control character is written by four hexadecimal digits, of which the first two are zero. -/
theorem codeUnit_of_control :
    ∀ n < 0x20,
      List.replicate (4 - (Nat.toDigits 16 n).length) '0' ++ Nat.toDigits 16 n =
        ['0', '0', Nat.digitChar (n / 16), Nat.digitChar (n % 16)] ∧
      Outline.codeUnit? '0' '0' (Nat.digitChar (n / 16)) (Nat.digitChar (n % 16)) = some n := by
  decide

/-- What is written inside a literal is read as one part of it, which stands for a character. -/
def StandsFor (written : List Char) (c : Char) : Prop :=
  ∃ part, (∀ rest, Outline.literal (written ++ rest) = Literal.prepend part (Outline.literal rest)) ∧
    ∀ parts, Literal.textOf none (part :: parts) = (Literal.textOf none parts).map (c :: ·)

theorem escape_standsFor (c : Char) : StandsFor (escape c) c := by
  have hshort : ∀ {letter}, letter ≠ 'u' → Outline.shortEscape? letter = some c →
      StandsFor ['\\', letter] c :=
    fun hletter hc => ⟨.char c, Outline.literal_shortEscape hletter hc, fun _ => rfl⟩
  unfold escape
  -- Seven characters have an escape of one letter.
  iterate 7
    split
    · next h => exact hshort (by decide) (by rw [h]; rfl)
  split
  · next hcontrol =>
    obtain ⟨hdigits, hunit⟩ := codeUnit_of_control c.toNat hcontrol
    refine ⟨.unit c.toNat, fun rest => ?_, fun parts => ?_⟩
    · rw [List.append_assoc ['\\', 'u'], hdigits]
      exact Outline.literal_codeUnit hunit rest
    · rw [Literal.textOf_unit none (by omega), Char.ofNat_toNat]
  · next hquote hescape _ _ _ _ _ hcontrol =>
    exact ⟨.char c, Outline.literal_char hquote hescape hcontrol, fun _ => rfl⟩

theorem exists_literal_flatMap_escape (characters : List Char) : ∃ parts,
    (∀ rest, Outline.literal (characters.flatMap escape ++ '"' :: rest) = (⟨parts, none⟩, rest)) ∧
    Literal.textOf none parts = .ok characters := by
  induction characters with
  | nil => exact ⟨[], fun rest => by rw [List.flatMap_nil, List.nil_append, Outline.literal], rfl⟩
  | cons c characters ih =>
    obtain ⟨part, hread, hpart⟩ := escape_standsFor c
    obtain ⟨parts, hrest, hparts⟩ := ih
    refine ⟨part :: parts, fun rest => ?_, ?_⟩
    · rw [List.flatMap_cons, List.append_assoc, hread, hrest]
      rfl
    · rw [hpart, hparts]
      rfl

/-- A string is written as a literal for it, which ends at its closing quote. -/
theorem exists_literal_renderString (s : String) : ∃ (l : Literal) (inner : List Char),
    l.fault = none ∧ l.text = .ok s ∧ (renderString s).toList = '"' :: inner ∧
      ∀ rest, Outline.literal (inner ++ rest) = (l, rest) := by
  obtain ⟨parts, hread, htext⟩ := exists_literal_flatMap_escape s.toList
  refine ⟨⟨parts, none⟩, s.toList.flatMap escape ++ ['"'], rfl, ?_, ?_, fun rest => ?_⟩
  · rw [Literal.text, htext]
    exact congrArg Except.ok String.ofList_toList
  · rw [renderString, String.toList_ofList]
    rfl
  · rw [List.append_assoc]
    exact hread rest

end Json

/-! ## Numerals -/

namespace Numeral

/-- The digits of a number, as a numeral has them. -/
def digitsOf (n : Nat) : List Nat := (Nat.toDigits 10 n).map fun c => c.toNat - 48

theorem exists_digitsOf_eq_cons {n : Nat} (h : 0 < n) :
    ∃ digit digits, digitsOf n = digit :: digits ∧ digit ≠ 0 := by
  induction n using Nat.strongRecOn with
  | ind n ih =>
    by_cases hsmall : n < 10
    · have hdigit : ∀ n < 10, 0 < n → (Nat.digitChar n).toNat - 48 ≠ 0 := by decide
      refine ⟨_, [], ?_, hdigit n hsmall h⟩
      rw [digitsOf, Nat.toDigits_of_lt_base hsmall]
      rfl
    · obtain ⟨digit, digits, hdigits, hne⟩ := ih (n / 10) (by omega) (by omega)
      refine ⟨digit, digits ++ [(Nat.digitChar (n % 10)).toNat - 48], ?_, hne⟩
      rw [digitsOf] at hdigits
      rw [digitsOf, Nat.toDigits_of_base_le (by decide) (by omega), List.map_append, hdigits]
      rfl

theorem foldl_digitsOf (n : Nat) :
    (digitsOf n).foldl (fun m digit => m * 10 + digit) 0 = n := by
  have hread := @Nat.ofDigitChars_ten_toDigits n
  rw [Nat.ofDigitChars_eq_foldl] at hread
  rw [digitsOf, List.foldl_map]
  simpa [Nat.mul_comm] using hread

theorem le_foldl_digits (lead : Nat) (digits : List Nat) :
    lead ≤ digits.foldl (fun m digit => m * 10 + digit) lead := by
  induction digits generalizing lead with
  | nil => exact Nat.le_refl lead
  | cons digit digits ih =>
    have := ih (lead * 10 + digit)
    rw [List.foldl_cons]
    omega

/-- Digits of a number that fits are all taken. -/
theorem absorb_of_le {lead : Nat} {digits : List Nat}
    (h : digits.foldl (fun m digit => m * 10 + digit) lead ≤ largestLead) :
    absorb lead digits = (digits.foldl (fun m digit => m * 10 + digit) lead, []) := by
  induction digits generalizing lead with
  | nil => rfl
  | cons digit digits ih =>
    rw [List.foldl_cons] at h ⊢
    rw [absorb, if_neg (Nat.not_lt.mpr (Nat.le_trans (le_foldl_digits _ digits) h)), ih h]

/-- A whole number is what its digits stand for. -/
theorem value?_digitsOf (negative : Bool) {w : Whole} {n : Nat}
    (h : w.val = if negative then -(n : Int) else n) (hzero : negative = true → 0 < n) :
    (⟨negative, digitsOf n, [], none⟩ : Numeral).value? = some (.whole w) := by
  have hlower := w.lower
  have hupper := w.upper
  have hlead : absorb 0 (digitsOf n) = (n, []) := by
    have hfits : n ≤ largestLead := by
      show n ≤ 18446744073709551615
      split at h <;> omega
    rw [← foldl_digitsOf n] at hfits
    rw [absorb_of_le hfits, foldl_digitsOf]
  cases negative with
  | false =>
    have hn : n < 0x10000000000000000 := by
      rw [if_neg Bool.false_ne_true] at h
      omega
    simp only [value?, hlead, absorb, and_self, if_true, Bool.false_eq_true, if_false, dif_pos hn]
    exact congrArg (fun w => some (JsonNumber.whole w)) (Whole.eq_of_val h.symm)
  | true =>
    have hn : 0 < n ∧ n ≤ 0x8000000000000000 := by
      rw [if_pos rfl] at h
      exact ⟨hzero rfl, by omega⟩
    simp only [value?, hlead, absorb, and_self, if_true, dif_pos hn]
    exact congrArg (fun w => some (JsonNumber.whole w)) (Whole.eq_of_val h.symm)

end Numeral

namespace Outline

/-- A text does not go on with a numeral that stands in front of it. -/
def EndsNumeral (rest : List Char) : Prop :=
  ∀ c ∈ rest.head?, c.isDigit = false ∧ c ≠ '.' ∧ c ≠ 'e' ∧ c ≠ 'E'

theorem digits_append {text rest : List Char} (h : ∀ c ∈ text, c.isDigit = true)
    (hrest : EndsNumeral rest) :
    digits (text ++ rest) = text.map (fun c => c.toNat - 48) ∧ skipDigits (text ++ rest) = rest := by
  have hend : rest.takeWhile Char.isDigit = [] ∧ rest.dropWhile Char.isDigit = rest := by
    cases rest with
    | nil => exact ⟨rfl, rfl⟩
    | cons c rest => simp [(hrest c rfl).1]
  rw [digits, skipDigits, List.takeWhile_append_of_pos h, List.dropWhile_append_of_pos h, hend.1,
    hend.2, List.append_nil]
  exact ⟨rfl, rfl⟩

theorem numeralTail_of_endsNumeral (negative : Bool) (whole : List Nat) {rest : List Char}
    (h : EndsNumeral rest) :
    numeralTail negative whole rest = (.number ⟨negative, whole, [], none⟩, rest) := by
  cases rest with
  | nil => rfl
  | cons c rest =>
    obtain ⟨-, hpoint, hsmall, hlarge⟩ := h c rfl
    rw [numeralTail]
    · exact if_neg (not_or.mpr ⟨hsmall, hlarge⟩)
    · intro _ heq
      exact hpoint (List.cons.inj heq).1

/-- A numeral without leading zeros is read up to where it ends. -/
theorem numeral_toDigits (negative : Bool) (n : Nat) {rest : List Char} (h : EndsNumeral rest) :
    numeral negative (Nat.toDigits 10 n ++ rest) =
      (.number ⟨negative, Numeral.digitsOf n, [], none⟩, rest) := by
  have hall : ∀ c ∈ Nat.toDigits 10 n, c.isDigit = true :=
    fun c hc => Nat.isDigit_of_mem_toDigits (by decide) (by decide) hc
  obtain ⟨hdigits, hskip⟩ := digits_append hall h
  have htail : ∀ whole, numeralTail negative whole (skipDigits (Nat.toDigits 10 n ++ rest)) =
      (.number ⟨negative, whole, [], none⟩, rest) := by
    intro whole
    rw [hskip, numeralTail_of_endsNumeral negative whole h]
  change digits _ = Numeral.digitsOf n at hdigits
  rw [numeral, hdigits]
  rcases Nat.eq_zero_or_pos n with rfl | hpos
  · exact htail [0]
  · obtain ⟨digit, others, heq, hne⟩ := Numeral.exists_digitsOf_eq_cons hpos
    rw [heq, ← htail]
    split <;> simp_all

end Outline

/-- A whole number is written by its digits, with a sign if it is negative. -/
theorem Json.toList_renderNumber (w : Whole) :
    (0 ≤ w.val ∧ (renderNumber (.whole w)).toList = Nat.toDigits 10 w.val.natAbs) ∨
      (w.val < 0 ∧ (renderNumber (.whole w)).toList = '-' :: Nat.toDigits 10 w.val.natAbs) := by
  rw [renderNumber]
  generalize w.val = val
  cases val with
  | ofNat n => exact .inl ⟨Int.natCast_nonneg n, Nat.toList_repr⟩
  | negSucc n =>
    refine .inr ⟨Int.negSucc_lt_zero n, ?_⟩
    show ("-" ++ (n + 1).repr).toList = _
    rw [String.toList_append, Nat.toList_repr]
    rfl

/-! ## The machine

The three readers call each other on shorter texts, so none of them is unfolded but here, with one
equation for each way on that a compact text can take. -/

namespace Outline

theorem skipBlanks_cons {c : Char} (h : isBlank c = false) (rest : List Char) :
    skipBlanks (c :: rest) = c :: rest :=
  List.dropWhile_cons_of_neg (Bool.eq_false_iff.mp h)

section Steps

variable {frames : List Frame} {outline : Outline} {text rest : List Char}

theorem value_emptyArray (h : skipBlanks text = '[' :: ']' :: rest) :
    value frames text = after frames (.array [] none) rest := by
  have hclose : skipBlanks (']' :: rest) = ']' :: rest := rfl
  rw [value]
  split <;> simp_all
  split <;> simp_all

theorem value_array {c : Char} (h : skipBlanks text = '[' :: c :: rest) (hblank : isBlank c = false)
    (hc : c ≠ ']') : value frames text = value (.array [] :: frames) (c :: rest) := by
  have hopen := skipBlanks_cons hblank rest
  rw [value]
  split <;> simp_all

theorem value_emptyObject (h : skipBlanks text = '\x7b' :: '\x7d' :: rest) :
    value frames text = after frames (.object [] none) rest := by
  have hclose : skipBlanks ('\x7d' :: rest) = '\x7d' :: rest := rfl
  rw [value]
  split <;> simp_all
  split <;> simp_all

theorem value_object {c : Char} (h : skipBlanks text = '\x7b' :: c :: rest)
    (hblank : isBlank c = false) (hc : c ≠ '\x7d') :
    value frames text = member frames [] (c :: rest) := by
  have hopen := skipBlanks_cons hblank rest
  rw [value]
  split <;> simp_all

theorem value_scalar (c : Char) (h : skipBlanks text = c :: rest) (hbracket : c ≠ '[')
    (hbrace : c ≠ '\x7b') :
    value frames text = after frames (scalar c rest).1 (scalar c rest).2 := by
  rw [value]
  split
  all_goals
    rename_i hskip
    rw [h] at hskip
    cases hskip
  · exact absurd rfl hbracket
  · exact absurd rfl hbrace
  · rfl

theorem after_array_close (items : List Outline) (h : skipBlanks text = ']' :: rest) :
    after (.array items :: frames) outline text =
      after frames (.array (outline :: items).reverse none) rest := by
  rw [after]
  split <;> simp_all

theorem after_array_comma (items : List Outline) {c : Char} (h : skipBlanks text = ',' :: c :: rest)
    (hblank : isBlank c = false) (hc : c ≠ ']') :
    after (.array items :: frames) outline text =
      value (.array (outline :: items) :: frames) (c :: rest) := by
  have hopen := skipBlanks_cons hblank rest
  rw [after]
  split <;> simp_all

theorem after_object_close (members : List (Literal × Outline)) (name : Literal)
    (h : skipBlanks text = '\x7d' :: rest) :
    after (.object members name :: frames) outline text =
      after frames (.object ((name, outline) :: members).reverse none) rest := by
  rw [after]
  split <;> simp_all

theorem after_object_comma (members : List (Literal × Outline)) (name : Literal)
    (h : skipBlanks text = ',' :: rest) :
    after (.object members name :: frames) outline text =
      member frames ((name, outline) :: members) rest := by
  rw [after]
  split <;> simp_all

theorem member_eq (members : List (Literal × Outline)) {name : Literal} {behind value' : List Char}
    (h : skipBlanks text = '"' :: rest) (hfault : name.fault = none)
    (hname : literal rest = (name, behind)) (hcolon : skipBlanks behind = ':' :: value') :
    member frames members text = value (.object members name :: frames) value' := by
  rw [member]
  split <;> simp_all
  split <;> simp_all

end Steps

/-- A text is a value with an outline, whatever is open around it and whatever follows. -/
structure ReadsAs (text : String) (outline : Outline) : Prop where
  starts : ∃ c rest, text.toList = c :: rest ∧ isBlank c = false ∧ c ≠ ']'
  value_eq : ∀ frames {rest}, EndsNumeral rest →
    value frames (text.toList ++ rest) = after frames outline rest

/-- A text is a member of an object with a name and a value. -/
structure MemberReadsAs (text : String) (read : Literal × Outline) : Prop where
  starts : ∃ rest, text.toList = '"' :: rest
  member_eq : ∀ frames members {rest}, EndsNumeral rest →
    member frames members (text.toList ++ rest) =
      after (.object members read.1 :: frames) read.2 rest

/-! ### Scalars -/

/-- A value that is no container only has to be read as such. -/
theorem ReadsAs.of_scalar {text : String} {outline : Outline} {c : Char} {tail : List Char}
    (htext : text.toList = c :: tail) (hblank : isBlank c = false) (hopen : c ≠ '[' ∧ c ≠ '\x7b')
    (hclose : c ≠ ']') (h : ∀ rest, EndsNumeral rest → scalar c (tail ++ rest) = (outline, rest)) :
    ReadsAs text outline where
  starts := ⟨c, tail, htext, hblank, hclose⟩
  value_eq frames rest hrest := by
    rw [htext, List.cons_append, value_scalar c (skipBlanks_cons hblank _) hopen.1 hopen.2,
      h rest hrest]

theorem readsAs_null : ReadsAs Json.null.render .null :=
  .of_scalar rfl (by decide) (by decide) (by decide) fun _ _ => rfl

theorem readsAs_bool (b : Bool) : ReadsAs (Json.bool b).render (.bool b) := by
  cases b with
  | true => exact .of_scalar rfl (by decide) (by decide) (by decide) fun _ _ => rfl
  | false => exact .of_scalar rfl (by decide) (by decide) (by decide) fun _ _ => rfl

theorem exists_readsAs_string (s : String) :
    ∃ l : Literal, l.text = .ok s ∧ ReadsAs (Json.string s).render (.string l) := by
  obtain ⟨l, inner, -, htext, hwritten, hread⟩ := Json.exists_literal_renderString s
  rw [Json.render]
  refine ⟨l, htext, .of_scalar hwritten (by decide) (by decide) (by decide) fun rest _ => ?_⟩
  have hscalar : scalar '"' (inner ++ rest) =
    (.string (literal (inner ++ rest)).1, (literal (inner ++ rest)).2) := rfl
  rw [hscalar, hread]

theorem ne_of_isDigit {c d : Char} (hc : c.isDigit = true) (hd : d.isDigit = false) : c ≠ d := by
  rintro rfl
  rw [hc] at hd
  cases hd

theorem scalar_digit {c : Char} (h : c.isDigit = true) (rest : List Char) :
    scalar c rest = numeral false (c :: rest) := by
  rw [scalar, if_neg (ne_of_isDigit h rfl), if_neg (ne_of_isDigit h rfl),
    if_neg (ne_of_isDigit h rfl), if_neg (ne_of_isDigit h rfl), if_neg (ne_of_isDigit h rfl),
    if_pos h]

theorem isBlank_digit {c : Char} (h : c.isDigit = true) : isBlank c = false := by
  simp [isBlank, @ne_of_isDigit c ' ' h rfl, @ne_of_isDigit c '\n' h rfl,
    @ne_of_isDigit c '\t' h rfl, @ne_of_isDigit c '\r' h rfl]

theorem exists_readsAs_whole (w : Whole) : ∃ n : Numeral, n.value? = some (.whole w) ∧
    ReadsAs (Json.number (.whole w)).render (.number n) := by
  rw [Json.render]
  rcases Json.toList_renderNumber w with ⟨hsign, hwritten⟩ | ⟨hsign, hwritten⟩
  · have hval : w.val = w.val.natAbs := by omega
    refine ⟨⟨false, Numeral.digitsOf w.val.natAbs, [], none⟩,
      Numeral.value?_digitsOf false hval nofun, ?_⟩
    obtain ⟨c, tail, hdigits⟩ := List.exists_cons_of_ne_nil (@Nat.toDigits_ne_nil w.val.natAbs 10)
    have hc : c.isDigit = true :=
      Nat.isDigit_of_mem_toDigits (by decide) (by decide) (hdigits ▸ List.mem_cons_self)
    refine .of_scalar (hwritten.trans hdigits) (isBlank_digit hc)
      ⟨ne_of_isDigit hc rfl, ne_of_isDigit hc rfl⟩ (ne_of_isDigit hc rfl) fun rest hrest => ?_
    rw [scalar_digit hc, ← List.cons_append, ← hdigits]
    exact numeral_toDigits false _ hrest
  · have hval : w.val = -w.val.natAbs := by omega
    refine ⟨⟨true, Numeral.digitsOf w.val.natAbs, [], none⟩,
      Numeral.value?_digitsOf true hval fun _ => by omega, ?_⟩
    exact .of_scalar hwritten (by decide) (by decide) (by decide)
      fun rest hrest => numeral_toDigits true _ hrest

/-! ### Containers -/

theorem endsNumeral_cons {c : Char} (hdigit : c.isDigit = false)
    (h : c ≠ '.' ∧ c ≠ 'e' ∧ c ≠ 'E') (rest : List Char) : EndsNumeral (c :: rest) := by
  rintro _ ⟨⟩
  exact ⟨hdigit, h⟩

/-- Several texts begin as the first of them does. -/
theorem exists_toList_intercalate {text : String} {c : Char} {tail : List Char}
    (h : text.toList = c :: tail) (texts : List String) :
    ∃ others, (",".intercalate (text :: texts)).toList = c :: others := by
  cases texts with
  | nil =>
    rw [String.intercalate_singleton]
    exact ⟨tail, h⟩
  | cons next texts =>
    rw [String.intercalate_cons_cons, String.toList_append, String.toList_append, h]
    exact ⟨_, rfl⟩

/-- The items of an array, behind those that have been read. -/
theorem value_items {text : String} {outline : Outline} {texts : List String}
    {outlines : List Outline} (h : ReadsAs text outline) (hs : List.Forall₂ ReadsAs texts outlines)
    (frames : List Frame) (read : List Outline) (rest : List Char) :
    value (.array read :: frames) ((",".intercalate (text :: texts)).toList ++ ']' :: rest) =
      after frames (.array (read.reverse ++ outline :: outlines) none) rest := by
  induction hs generalizing text outline read with
  | nil =>
    rw [String.intercalate_singleton, h.value_eq _ (endsNumeral_cons rfl (by decide) rest),
      after_array_close read rfl, List.reverse_cons]
  | @cons next outline' texts outlines hnext hs ih =>
    obtain ⟨c, tail, hstarts, hblank, hc⟩ := hnext.starts
    obtain ⟨others, hothers⟩ := exists_toList_intercalate hstarts texts
    have hcomma : ",".toList ++ c :: (others ++ ']' :: rest) =
      ',' :: c :: (others ++ ']' :: rest) := rfl
    rw [String.intercalate_cons_cons, String.toList_append, String.toList_append, List.append_assoc,
      List.append_assoc, hothers, List.cons_append, hcomma,
      h.value_eq _ (endsNumeral_cons rfl (by decide) _), after_array_comma read rfl hblank hc,
      ← List.cons_append, ← hothers, ih hnext, List.reverse_cons, List.append_assoc,
      List.singleton_append]

/-- The members of an object, behind those that have been read. -/
theorem member_members {text : String} {member : Literal × Outline} {texts : List String}
    {members : List (Literal × Outline)} (h : MemberReadsAs text member)
    (hs : List.Forall₂ MemberReadsAs texts members)
    (frames : List Frame) (read : List (Literal × Outline)) (rest : List Char) :
    Outline.member frames read ((",".intercalate (text :: texts)).toList ++ '\x7d' :: rest) =
      after frames (.object (read.reverse ++ member :: members) none) rest := by
  induction hs generalizing text member read with
  | nil =>
    rw [String.intercalate_singleton, h.member_eq _ _ (endsNumeral_cons rfl (by decide) rest),
      after_object_close read _ rfl, List.reverse_cons]
  | @cons next member' texts members hnext hs ih =>
    have hcomma : (",".toList : List Char) = [','] := rfl
    rw [String.intercalate_cons_cons, String.toList_append, String.toList_append, List.append_assoc,
      List.append_assoc, hcomma, List.singleton_append,
      h.member_eq _ _ (endsNumeral_cons rfl (by decide) _), after_object_comma read _ rfl,
      ih hnext, List.reverse_cons, List.append_assoc, List.singleton_append]

theorem readsAs_array {texts : List String} {outlines : List Outline}
    (h : List.Forall₂ ReadsAs texts outlines) :
    ReadsAs ("[" ++ ",".intercalate texts ++ "]") (.array outlines none) where
  starts := by
    rw [String.toList_append, String.toList_append]
    exact ⟨'[', _, rfl, by decide, by decide⟩
  value_eq frames rest _ := by
    have hwritten : ("[" ++ ",".intercalate texts ++ "]").toList ++ rest =
        '[' :: ((",".intercalate texts).toList ++ ']' :: rest) := by
      rw [String.toList_append, String.toList_append, List.append_assoc, List.append_assoc]
      rfl
    rw [hwritten]
    cases h with
    | nil => exact value_emptyArray rfl
    | @cons text outline texts outlines hfirst hs =>
      obtain ⟨c, tail, hstarts, hblank, hc⟩ := hfirst.starts
      obtain ⟨others, hothers⟩ := exists_toList_intercalate hstarts texts
      rw [hothers, List.cons_append, value_array rfl hblank hc, ← List.cons_append, ← hothers,
        value_items hfirst hs]
      rfl

theorem readsAs_object {texts : List String} {members : List (Literal × Outline)}
    (h : List.Forall₂ MemberReadsAs texts members) :
    ReadsAs ("\x7b" ++ ",".intercalate texts ++ "\x7d") (.object members none) where
  starts := by
    rw [String.toList_append, String.toList_append]
    exact ⟨'\x7b', _, rfl, by decide, by decide⟩
  value_eq frames rest _ := by
    have hwritten : ("\x7b" ++ ",".intercalate texts ++ "\x7d").toList ++ rest =
        '\x7b' :: ((",".intercalate texts).toList ++ '\x7d' :: rest) := by
      rw [String.toList_append, String.toList_append, List.append_assoc, List.append_assoc]
      rfl
    rw [hwritten]
    cases h with
    | nil => exact value_emptyObject rfl
    | @cons text member texts members hfirst hs =>
      obtain ⟨tail, hstarts⟩ := hfirst.starts
      obtain ⟨others, hothers⟩ := exists_toList_intercalate hstarts texts
      rw [hothers, List.cons_append, value_object rfl (by decide) (by decide), ← List.cons_append,
        ← hothers, member_members hfirst hs]
      rfl

theorem exists_memberReadsAs (name : String) {text : String} {outline : Outline}
    (h : ReadsAs text outline) :
    ∃ l : Literal, l.fault = none ∧ l.text = .ok name ∧
      MemberReadsAs (Json.renderString name ++ ":" ++ text) (l, outline) := by
  obtain ⟨l, inner, hfault, htext, hwritten, hread⟩ := Json.exists_literal_renderString name
  have hmember : (Json.renderString name ++ ":" ++ text).toList =
      '"' :: (inner ++ ':' :: text.toList) := by
    rw [String.toList_append, String.toList_append, hwritten, List.append_assoc]
    rfl
  refine ⟨l, hfault, htext, ⟨_, hmember⟩, fun frames members rest hrest => ?_⟩
  rw [hmember, List.cons_append, List.append_assoc, List.cons_append,
    member_eq members (skipBlanks_cons (by decide) _) hfault (hread _)
      (skipBlanks_cons (by decide) _)]
  exact h.value_eq _ hrest

end Outline

/-! ## Whole texts -/

theorem Outline.ReadsAs.ofString_eq {text : String} {outline : Outline} (h : ReadsAs text outline) :
    JsonText.ofString text = ⟨outline, false⟩ := by
  have hvalue := @value_eq _ _ h [] [] nofun
  rw [List.append_nil, after] at hvalue
  rw [JsonText.ofString, hvalue]
  rfl

theorem exists_forall₂ {α β : Type} {R : α → β → Prop} {xs : List α} (h : ∀ x ∈ xs, ∃ y, R x y) :
    ∃ ys, List.Forall₂ R xs ys := by
  induction xs with
  | nil => exact ⟨[], .nil⟩
  | cons x xs ih =>
    obtain ⟨⟨y, hy⟩, hxs⟩ := List.forall_mem_cons.mp h
    obtain ⟨ys, hys⟩ := ih hxs
    exact ⟨y :: ys, .cons hy hys⟩

namespace Json

/-- The text of a value is read as an outline in which the value stands. -/
theorem HasWholeNumbers.exists_readsAs {json : Json} (h : json.HasWholeNumbers) :
    ∃ outline, json.IsShownBy outline ∧ Outline.ReadsAs json.render outline := by
  induction h with
  | null => exact ⟨_, .null, Outline.readsAs_null⟩
  | bool b => exact ⟨_, .bool b, Outline.readsAs_bool b⟩
  | whole w =>
    obtain ⟨n, hvalue, hread⟩ := Outline.exists_readsAs_whole w
    exact ⟨_, .number hvalue, hread⟩
  | string s =>
    obtain ⟨l, htext, hread⟩ := Outline.exists_readsAs_string s
    exact ⟨_, .string htext, hread⟩
  | @array items h ih =>
    obtain ⟨outlines, hread⟩ := exists_forall₂ ih
    rw [render, renderItems_eq]
    exact ⟨_, .array (hread.imp fun _ _ h => h.1),
      Outline.readsAs_array (List.forall₂_map_left_iff.mpr (hread.imp fun _ _ h => h.2))⟩
  | @object members h ih =>
    have hmembers : ∀ member ∈ members, ∃ outline, IsMemberShownBy member outline ∧
        Outline.MemberReadsAs (renderString member.1 ++ ":" ++ member.2.render) outline := by
      intro member hmember
      obtain ⟨value, hshown, hvalue⟩ := ih member hmember
      obtain ⟨name, -, hname, hread⟩ := Outline.exists_memberReadsAs member.1 hvalue
      exact ⟨(name, value), .mk hname hshown, hread⟩
    obtain ⟨outlines, hread⟩ := exists_forall₂ hmembers
    rw [render, renderMembers_eq]
    exact ⟨_, .object (.refl _) (hread.imp fun _ _ h => h.1),
      Outline.readsAs_object (List.forall₂_map_left_iff.mpr (hread.imp fun _ _ h => h.2))⟩

/-- **What is written is read**: a text in which a value stands, and nothing behind it. -/
theorem HasWholeNumbers.exists_ofString {json : Json} (h : json.HasWholeNumbers) :
    ∃ outline, json.IsShownBy outline ∧ JsonText.ofString json.render = ⟨outline, false⟩ := by
  obtain ⟨outline, hshown, hread⟩ := h.exists_readsAs
  exact ⟨outline, hshown, hread.ofString_eq⟩

end Json

end SqlBuilder
