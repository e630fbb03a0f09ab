import SqlBuilder.Decimal.Numeral

/-!
# Outlines of JSON texts

A reader of JSON text that expects a certain shape stops at the first thing that does not fit, be it
a value of the wrong type or a place where the text is no JSON at all, whichever comes first.  So a
text is first turned into an `Outline`: everything it says up to the place where it stops being
JSON, and at that place a `TextFault`.  Readers then walk over the outline in the order of the text.

Literals and numerals stay as they are written, because a reader that passes over a value asks less
of it than one that reads it: half of a surrogate pair and a number out of range only hurt a reader
that wants the value.
-/
namespace SqlBuilder

/-- How a text stops being JSON. -/
inductive TextFault where
  /-- It ends too early. -/
  | truncated
  /-- It goes on with something else. -/
  | malformed
deriving DecidableEq

/-- A part of a string literal. -/
inductive LiteralPart where
  | char (c : Char)
  /-- A 16-bit code unit written as an escape. -/
  | unit (n : Nat)
deriving DecidableEq

/-- A string literal as far as it can be read. -/
structure Literal where
  parts : List LiteralPart
  fault : Option TextFault
deriving DecidableEq

/-- Adds a part to what follows it in a literal. -/
def Literal.prepend (part : LiteralPart) (rest : Literal × List Char) : Literal × List Char :=
  (⟨part :: rest.1.parts, rest.1.fault⟩, rest.2)

/-- A JSON value as far as it can be read. -/
inductive Outline where
  | null
  | bool (b : Bool)
  | number (n : Numeral)
  | string (text : Literal)
  /-- The items, and what is wrong after the last of them. -/
  | array (items : List Outline) (fault : Option TextFault)
  /-- The members, and what is wrong after the last of them. -/
  | object (members : List (Literal × Outline)) (fault : Option TextFault)
  /-- A number that breaks off. -/
  | brokenNumber (fault : TextFault)
  /-- Nothing that could be a value. -/
  | broken (fault : TextFault)

namespace Outline

/-! ## Lexical parts -/

def isBlank (c : Char) : Bool := c == ' ' || c == '\n' || c == '\t' || c == '\r'

def skipBlanks (text : List Char) : List Char := text.dropWhile isBlank

theorem length_skipBlanks_le (text : List Char) : (skipBlanks text).length ≤ text.length :=
  (List.dropWhile_sublist _).length_le

/-- The value of a hexadecimal digit. -/
def hexDigit? (c : Char) : Option Nat :=
  if c.isDigit then some (c.toNat - 48)
  else if 'a' ≤ c ∧ c ≤ 'f' then some (c.toNat - 87)
  else if 'A' ≤ c ∧ c ≤ 'F' then some (c.toNat - 55)
  else none

/-- The code unit that four hexadecimal digits give. -/
def codeUnit? (a b c d : Char) : Option Nat := do
  let a ← hexDigit? a
  let b ← hexDigit? b
  let c ← hexDigit? c
  let d ← hexDigit? d
  return ((a * 16 + b) * 16 + c) * 16 + d

/-- The character that an escape of one letter stands for. -/
def shortEscape? (c : Char) : Option Char :=
  if c = '"' then some '"'
  else if c = '\\' then some '\\'
  else if c = '/' then some '/'
  else if c = 'b' then some '\x08'
  else if c = 'f' then some '\x0c'
  else if c = 'n' then some '\n'
  else if c = 'r' then some '\r'
  else if c = 't' then some '\t'
  else none

/-- What is wrong with an escape by code unit that does not have its four digits: it is cut off if
fewer than four bytes are left. -/
def codeUnitFault (rest : List Char) : TextFault :=
  if (String.ofList (rest.take 4)).utf8ByteSize < 4 then .truncated else .malformed

/-- The rest of a string literal behind its opening quote, and the text behind it. -/
def literal : List Char → Literal × List Char
  | [] => (⟨[], some .truncated⟩, [])
  | '"' :: rest => (⟨[], none⟩, rest)
  | '\\' :: 'u' :: a :: b :: c :: d :: rest =>
      match codeUnit? a b c d with
      | some n => Literal.prepend (.unit n) (literal rest)
      | none => (⟨[], some (codeUnitFault (a :: b :: c :: d :: rest))⟩, [])
  | '\\' :: 'u' :: rest => (⟨[], some (codeUnitFault rest)⟩, [])
  | '\\' :: c :: rest =>
      match shortEscape? c with
      | some e => Literal.prepend (.char e) (literal rest)
      | none => (⟨[], some .malformed⟩, [])
  | '\\' :: [] => (⟨[], some .truncated⟩, [])
  | c :: rest =>
      if c.toNat < 0x20 then (⟨[], some .malformed⟩, [])
      else Literal.prepend (.char c) (literal rest)

theorem length_literal_le (text : List Char) : (literal text).2.length ≤ text.length := by
  fun_induction literal text <;> simp_all [Literal.prepend] <;> omega

/-- The digits at the front of a text. -/
def digits (text : List Char) : List Nat := (text.takeWhile Char.isDigit).map fun c => c.toNat - 48

def skipDigits (text : List Char) : List Char := text.dropWhile Char.isDigit

theorem length_skipDigits_le (text : List Char) : (skipDigits text).length ≤ text.length :=
  (List.dropWhile_sublist _).length_le

/-- What is wrong where something else is needed than what follows. -/
def faultAt (text : List Char) : TextFault :=
  if text.isEmpty then .truncated else .malformed

/-- The exponent of a numeral whose other parts have been read. -/
def numeralExponent (negative : Bool) (whole fraction : List Nat) (text : List Char) :
    Outline × List Char :=
  let signed (sign : Int) (text : List Char) : Outline × List Char :=
    if digits text = [] then (.brokenNumber (faultAt text), [])
    else
      let size : Nat := (digits text).foldl (fun n digit => n * 10 + digit) 0
      (.number ⟨negative, whole, fraction, some (sign * size)⟩, skipDigits text)
  match text with
  | '+' :: rest => signed 1 rest
  | '-' :: rest => signed (-1) rest
  | _ => signed 1 text

/-- The part of a numeral behind its whole digits and its fraction. -/
def numeralEnd (negative : Bool) (whole fraction : List Nat) (text : List Char) :
    Outline × List Char :=
  match text with
  | c :: rest =>
      if c = 'e' ∨ c = 'E' then numeralExponent negative whole fraction rest
      else (.number ⟨negative, whole, fraction, none⟩, text)
  | [] => (.number ⟨negative, whole, fraction, none⟩, [])

/-- The part of a numeral behind its whole digits. -/
def numeralTail (negative : Bool) (whole : List Nat) (text : List Char) : Outline × List Char :=
  match text with
  | '.' :: rest =>
      if digits rest = [] then (.brokenNumber (faultAt rest), [])
      else numeralEnd negative whole (digits rest) (skipDigits rest)
  | _ => numeralEnd negative whole [] text

/-- A numeral behind its sign.  Only a lone zero begins with a zero. -/
def numeral (negative : Bool) (text : List Char) : Outline × List Char :=
  match digits text with
  | [] => (.brokenNumber (faultAt text), [])
  | [0] => numeralTail negative [0] (skipDigits text)
  | 0 :: _ => (.brokenNumber .malformed, [])
  | whole => numeralTail negative whole (skipDigits text)

theorem length_numeralExponent_le (negative : Bool) (whole fraction : List Nat)
    (text : List Char) :
    (numeralExponent negative whole fraction text).2.length ≤ text.length := by
  have := length_skipDigits_le
  unfold numeralExponent
  simp only
  split <;> split <;> simp_all <;> exact Nat.le_succ_of_le (this _)

theorem length_numeralEnd_le (negative : Bool) (whole fraction : List Nat) (text : List Char) :
    (numeralEnd negative whole fraction text).2.length ≤ text.length := by
  unfold numeralEnd
  split
  · split
    · exact Nat.le_succ_of_le (length_numeralExponent_le ..)
    · exact Nat.le_refl _
  · exact Nat.le_refl _

theorem length_numeralTail_le (negative : Bool) (whole : List Nat) (text : List Char) :
    (numeralTail negative whole text).2.length ≤ text.length := by
  unfold numeralTail
  split
  · split
    · simp
    · exact Nat.le_trans (length_numeralEnd_le ..) (Nat.le_succ_of_le (length_skipDigits_le _))
  · exact length_numeralEnd_le ..

theorem length_numeral_le (negative : Bool) (text : List Char) :
    (numeral negative text).2.length ≤ (skipDigits text).length := by
  unfold numeral
  split
  · simp
  · exact length_numeralTail_le ..
  · simp
  · exact length_numeralTail_le ..

/-- One of the three words of JSON: the outline if the text goes on with the given letters. -/
def word (value : Outline) : List Char → List Char → Outline × List Char
  | [], text => (value, text)
  | _ :: _, [] => (.broken .truncated, [])
  | letter :: letters, c :: text =>
      if c = letter then word value letters text else (.broken .malformed, [])

theorem length_word_le (value : Outline) (letters text : List Char) :
    (word value letters text).2.length ≤ text.length := by
  induction letters generalizing text with
  | nil => exact Nat.le_refl _
  | cons letter letters ih =>
    cases text with
    | nil => exact Nat.zero_le _
    | cons c text =>
      unfold word
      split
      · exact Nat.le_succ_of_le (ih text)
      · exact Nat.zero_le _

/-! ## Containers -/

/-- A container that is still open: what it holds so far, the newest first. -/
inductive Frame where
  | array (items : List Outline)
  | object (members : List (Literal × Outline)) (name : Literal)

/-- What is still open when a text breaks off: each container ends with the value that was being
read in it, and behind that nothing is looked at. -/
def abandon : List Frame → Outline → Outline
  | [], value => value
  | .array items :: frames, value => abandon frames (.array (value :: items).reverse none)
  | .object members name :: frames, value =>
      abandon frames (.object ((name, value) :: members).reverse none)

/-- A value that is no container, behind its first character. -/
def scalar (c : Char) (rest : List Char) : Outline × List Char :=
  if c = 'n' then word .null ['u', 'l', 'l'] rest
  else if c = 't' then word (.bool true) ['r', 'u', 'e'] rest
  else if c = 'f' then word (.bool false) ['a', 'l', 's', 'e'] rest
  else if c = '"' then (.string (literal rest).1, (literal rest).2)
  else if c = '-' then numeral true rest
  else if c.isDigit then numeral false (c :: rest)
  else (.broken .malformed, [])

/-- Even a broken value takes its first character off the text. -/
theorem length_scalar_le (c : Char) (rest : List Char) :
    (scalar c rest).2.length ≤ rest.length := by
  unfold scalar
  repeat' split
  · exact length_word_le ..
  · exact length_word_le ..
  · exact length_word_le ..
  · exact length_literal_le rest
  · exact Nat.le_trans (length_numeral_le ..) (length_skipDigits_le rest)
  · next h =>
    have hskip : skipDigits (c :: rest) = skipDigits rest := by simp [skipDigits, h]
    exact Nat.le_trans (length_numeral_le ..) (hskip ▸ length_skipDigits_le rest)
  · simp

theorem length_lt_of_skipBlanks {c : Char} {text rest : List Char}
    (h : skipBlanks text = c :: rest) : rest.length < text.length := by
  have := length_skipBlanks_le text
  rw [h] at this
  exact this

mutual

/-- Reads a value inside the given containers, and then everything behind it in them.  The result
also holds the text behind the outermost value. -/
def value (frames : List Frame) (text : List Char) : Outline × List Char :=
  match h : skipBlanks text with
  | [] => (abandon frames (.broken .truncated), [])
  | '[' :: rest =>
      have := length_lt_of_skipBlanks h
      match h' : skipBlanks rest with
      | ']' :: rest' =>
          have := length_lt_of_skipBlanks h'
          after frames (.array [] none) rest'
      | _ => value (.array [] :: frames) rest
  | '\x7b' :: rest =>
      have := length_lt_of_skipBlanks h
      match h' : skipBlanks rest with
      | '\x7d' :: rest' =>
          have := length_lt_of_skipBlanks h'
          after frames (.object [] none) rest'
      | _ => member frames [] rest
  | c :: rest =>
      have := length_lt_of_skipBlanks h
      have := length_scalar_le c rest
      after frames (scalar c rest).1 (scalar c rest).2
termination_by text.length

/-- Goes on behind a value. -/
def after (frames : List Frame) (outline : Outline) (text : List Char) : Outline × List Char :=
  match frames with
  | [] => (outline, text)
  | .array items :: frames =>
      match h : skipBlanks text with
      | ']' :: rest =>
          have := length_lt_of_skipBlanks h
          after frames (.array (outline :: items).reverse none) rest
      | ',' :: rest =>
          have := length_lt_of_skipBlanks h
          match skipBlanks rest with
          | ']' :: _ => (abandon frames (.array (outline :: items).reverse (some .malformed)), [])
          | _ => value (.array (outline :: items) :: frames) rest
      | rest => (abandon frames (.array (outline :: items).reverse (some (faultAt rest))), [])
  | .object members name :: frames =>
      match h : skipBlanks text with
      | '\x7d' :: rest =>
          have := length_lt_of_skipBlanks h
          after frames (.object ((name, outline) :: members).reverse none) rest
      | ',' :: rest =>
          have := length_lt_of_skipBlanks h
          member frames ((name, outline) :: members) rest
      | rest =>
          (abandon frames (.object ((name, outline) :: members).reverse (some (faultAt rest))), [])
termination_by text.length

/-- Reads a member: a name, a colon and a value. -/
def member (frames : List Frame) (members : List (Literal × Outline)) (text : List Char) :
    Outline × List Char :=
  match h : skipBlanks text with
  | '"' :: rest =>
      have := length_lt_of_skipBlanks h
      have := length_literal_le rest
      match (literal rest).1.fault with
      | some fault =>
          (abandon frames (.object (((literal rest).1, .broken fault) :: members).reverse none), [])
      | none =>
          match h' : skipBlanks (literal rest).2 with
          | ':' :: rest' =>
              have := length_lt_of_skipBlanks h'
              value (.object members (literal rest).1 :: frames) rest'
          | rest' =>
              (abandon (.object members (literal rest).1 :: frames)
                (.broken (faultAt rest')), [])
  | rest => (abandon frames (.object members.reverse (some (faultAt rest))), [])
termination_by text.length

end

end Outline

/-- A whole text: the outline of its value, and whether anything but blanks stands behind it. -/
structure JsonText where
  outline : Outline
  trailing : Bool

def JsonText.ofString (text : String) : JsonText :=
  let (outline, rest) := Outline.value [] text.toList
  ⟨outline, !(Outline.skipBlanks rest).isEmpty⟩

end SqlBuilder
