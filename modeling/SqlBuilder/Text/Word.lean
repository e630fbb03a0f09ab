import SqlBuilder.Text.Alphabetic
import SqlBuilder.Text.Numeric

/-!
# Word characters

A placeholder is a colon and a word: a first character that is alphabetic or an underscore, then
alphanumeric characters and underscores.  This module says which characters those are, over all of
Unicode.  ASCII is decided by rule and the rest by table, so that facts about the characters of SQL
text never have to look into a table.
-/
namespace SqlBuilder

/-- Whether a code point lies in one of the given closed intervals. -/
def inRanges (ranges : List (Nat × Nat)) (n : Nat) : Bool :=
  ranges.any fun range => range.1 ≤ n && n ≤ range.2

end SqlBuilder

namespace SqlBuilder.Word

/-- The Unicode property `Alphabetic`. -/
def isAlphabetic (c : Char) : Bool :=
  if c.toNat < 0x80 then c.isAlpha else inRanges alphabeticRanges c.toNat

/-- The Unicode categories of numerals: `Nd`, `Nl` and `No`. -/
def isNumeric (c : Char) : Bool :=
  if c.toNat < 0x80 then c.isDigit else inRanges numericRanges c.toNat

/-- Alphabetic or numeric. -/
def isAlphanumeric (c : Char) : Bool :=
  isAlphabetic c || isNumeric c

/-- A character that may begin a word. -/
def isStart (c : Char) : Bool :=
  isAlphabetic c || c == '_'

/-- A character that may continue a word. -/
def isPart (c : Char) : Bool :=
  isAlphanumeric c || c == '_'

theorem isAlphanumeric_of_isAlphabetic {c : Char} (h : isAlphabetic c = true) :
    isAlphanumeric c = true := by
  simp [isAlphanumeric, h]

/-- A word may begin only with what may also continue it. -/
theorem isPart_of_isStart {c : Char} (h : isStart c = true) : isPart c = true := by
  simp only [isStart, Bool.or_eq_true] at h
  rcases h with h | h
  · simp [isPart, isAlphanumeric_of_isAlphabetic h]
  · simp [isPart, h]

/-- Among the ASCII characters, a word is made of letters, digits and underscores. -/
theorem isPart_of_ascii {c : Char} (h : c.toNat < 0x80) :
    isPart c = (c.isAlpha || c.isDigit || c == '_') := by
  simp [isPart, isAlphanumeric, isAlphabetic, isNumeric, h]

/-- Every decimal digit continues a word, and none begins one. -/
theorem isPart_of_isDigit {c : Char} (h : c.isDigit = true) : isPart c = true := by
  have hc : c.toNat < 0x80 := by
    simp only [Char.isDigit, Bool.and_eq_true, decide_eq_true_eq] at h
    have h9 : c.val.toNat ≤ (57 : UInt32).toNat := UInt32.le_iff_toNat_le.mp h.2
    exact Nat.lt_of_le_of_lt h9 (by decide)
  rw [isPart_of_ascii hc, h]
  simp

end SqlBuilder.Word
