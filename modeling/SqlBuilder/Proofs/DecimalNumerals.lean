import Mathlib.Data.List.Induction
import Mathlib.Data.Nat.Digits.Defs
import SqlBuilder.Text.Integer

/-!
# Decimal numerals

A numeral is described here without reading it, by its digits and the number that they are in the
decimal system (`Numeral`, `Natural`).  What is read from a text are exactly the numerals whose numbers
the type can hold: those of 64 bits with a sign of either kind (`signed64?_eq_some_iff`), and those of
16 bits with a plus sign at most (`unsigned16?_eq_some_iff`).  Leading zeros are read, however many
there are, since only the number has to fit.
-/
namespace SqlBuilder.Integer

/-- The number that digits stand for, the last one being the least. -/
def valueOf (digits : List Char) : Nat :=
  Nat.ofDigits 10 (digits.reverse.map fun c => c.toNat - '0'.toNat)

/-- At least one digit, and nothing else. -/
structure IsDigits (digits : List Char) : Prop where
  ne_nil : digits ≠ []
  isDigit : ∀ c ∈ digits, c.isDigit = true

/-- The decimal numerals and their numbers. -/
inductive Numeral : List Char → Int → Prop
  | unsigned {digits : List Char} (h : IsDigits digits) : Numeral digits (valueOf digits)
  | plus {digits : List Char} (h : IsDigits digits) : Numeral ('+' :: digits) (valueOf digits)
  | minus {digits : List Char} (h : IsDigits digits) : Numeral ('-' :: digits) (-(valueOf digits))

/-- The numerals without a sign or with a plus, and their numbers. -/
inductive Natural : List Char → Nat → Prop
  | unsigned {digits : List Char} (h : IsDigits digits) : Natural digits (valueOf digits)
  | plus {digits : List Char} (h : IsDigits digits) : Natural ('+' :: digits) (valueOf digits)

/-- Reading digits from the left gives their number. -/
theorem foldl_eq_valueOf (digits : List Char) :
    digits.foldl (fun n c => n * 10 + (c.toNat - 48)) 0 = valueOf digits := by
  -- From behind, since the digit that is read last counts least.
  induction digits using List.reverseRecOn with
  | nil => rfl
  | append_singleton digits c ih =>
    have hvalue : valueOf (digits ++ [c]) = (c.toNat - '0'.toNat) + 10 * valueOf digits := by
      unfold valueOf
      rw [List.reverse_append, List.reverse_singleton, List.singleton_append, List.map_cons,
        Nat.ofDigits_cons]
    rw [List.foldl_append, ih, hvalue, List.foldl_cons, List.foldl_nil]
    have hzero : '0'.toNat = 48 := rfl
    omega

theorem natural?_eq_some_iff {digits : List Char} {n : Nat} :
    natural? digits = some n ↔ IsDigits digits ∧ valueOf digits = n := by
  unfold natural?
  rw [foldl_eq_valueOf]
  constructor
  · intro h
    split at h
    · cases h
    · rename_i hdigits
      rw [Bool.or_eq_true, not_or, List.isEmpty_iff, Bool.not_eq_true, Bool.not_eq_false',
        List.all_eq_true] at hdigits
      exact ⟨⟨hdigits.1, hdigits.2⟩, Option.some.inj h⟩
  · rintro ⟨h, rfl⟩
    have hall : digits.all Char.isDigit = true := List.all_eq_true.mpr h.isDigit
    rw [hall, if_neg]
    simp only [Bool.not_true, Bool.or_false, List.isEmpty_iff]
    exact h.ne_nil

/-- The number of a text with or without a sign, of whatever size. -/
def signed? : List Char → Option Int
  | '+' :: digits => (natural? digits).map fun n : Nat => (n : Int)
  | '-' :: digits => (natural? digits).map fun n : Nat => -(n : Int)
  | digits => (natural? digits).map fun n : Nat => (n : Int)

theorem Numeral.of_map_natural? {text digits : List Char} {sign : Nat → Int}
    (h : IsDigits digits → Numeral text (sign (valueOf digits))) {n : Int}
    (hread : (natural? digits).map sign = some n) : Numeral text n := by
  obtain ⟨value, hvalue, rfl⟩ := Option.map_eq_some_iff.mp hread
  obtain ⟨hdigits, rfl⟩ := natural?_eq_some_iff.mp hvalue
  exact h hdigits

/-- **The numerals are what is read**, and they are read as their numbers. -/
theorem signed?_eq_some_iff {text : List Char} {n : Int} :
    signed? text = some n ↔ Numeral text n := by
  have hread : ∀ {digits}, IsDigits digits → natural? digits = some (valueOf digits) :=
    fun h => natural?_eq_some_iff.mpr ⟨h, rfl⟩
  constructor
  · intro h
    unfold signed? at h
    split at h
    · exact .of_map_natural? .plus h
    · exact .of_map_natural? .minus h
    · exact .of_map_natural? .unsigned h
  · rintro (h | h | h)
    · -- Digits begin with no sign, so only the last case can apply.
      unfold signed?
      split
      · cases h.isDigit '+' List.mem_cons_self
      · cases h.isDigit '-' List.mem_cons_self
      · rw [hread h]
        rfl
    · rw [signed?, hread h]
      rfl
    · rw [signed?, hread h]
      rfl

/-- A numeral of 64 bits is read as its number, and nothing else is read. -/
theorem signed64?_eq_some_iff {text : String} {n : Int64} :
    signed64? text = some n ↔ Numeral text.toList n.toInt := by
  have hsigned : signed64? text = (signed? text.toList).bind fun value =>
      if -0x8000000000000000 ≤ value ∧ value < 0x8000000000000000 then some (Int64.ofInt value)
      else none := by
    unfold signed64?
    generalize text.toList = characters
    split
    · rw [signed?]
      cases natural? _ <;> rfl
    · rw [signed?]
      cases natural? _ <;> rfl
    · rename_i hplus hminus
      rw [signed?]
      · cases natural? _ <;> rfl
      · exact hplus
      · exact hminus
  rw [hsigned, ← signed?_eq_some_iff, Option.bind_eq_some_iff]
  constructor
  · rintro ⟨value, hvalue, hrange⟩
    split at hrange
    · rename_i hbounds
      obtain rfl := Option.some.inj hrange
      rw [Int64.toInt_ofInt_of_le hbounds.1 hbounds.2]
      exact hvalue
    · cases hrange
  · intro h
    refine ⟨n.toInt, h, ?_⟩
    rw [if_pos ⟨n.le_toInt, n.toInt_lt⟩, Int64.ofInt_toInt]

/-- The number of a text with or without a plus sign, of whatever size. -/
def unsigned? : List Char → Option Nat
  | '+' :: digits => natural? digits
  | digits => natural? digits

theorem unsigned?_eq_some_iff {text : List Char} {n : Nat} :
    unsigned? text = some n ↔ Natural text n := by
  constructor
  · intro h
    unfold unsigned? at h
    split at h
    all_goals obtain ⟨hdigits, rfl⟩ := natural?_eq_some_iff.mp h
    · exact .plus hdigits
    · exact .unsigned hdigits
  · rintro (h | h)
    · unfold unsigned?
      split
      · cases h.isDigit '+' List.mem_cons_self
      · exact natural?_eq_some_iff.mpr ⟨h, rfl⟩
    · exact natural?_eq_some_iff.mpr ⟨h, rfl⟩

/-- A numeral of 16 bits is read as its number, and nothing else is read. -/
theorem unsigned16?_eq_some_iff {text : String} {n : UInt16} :
    unsigned16? text = some n ↔ Natural text.toList n.toNat := by
  have hunsigned : unsigned16? text = (unsigned? text.toList).bind fun value =>
      if value < 0x10000 then some (UInt16.ofNat value) else none := by
    unfold unsigned16?
    generalize text.toList = characters
    split
    · rw [unsigned?]
      rfl
    · rename_i hplus
      rw [unsigned?]
      · rfl
      · exact hplus
  rw [hunsigned, ← unsigned?_eq_some_iff, Option.bind_eq_some_iff]
  constructor
  · rintro ⟨value, hvalue, hrange⟩
    split at hrange
    · rename_i hbound
      obtain rfl := Option.some.inj hrange
      rw [UInt16.toNat_ofNat_of_lt' hbound]
      exact hvalue
    · cases hrange
  · intro h
    refine ⟨n.toNat, h, ?_⟩
    rw [if_pos n.toNat_lt, UInt16.ofNat_toNat]

end SqlBuilder.Integer
