import SqlBuilder.Text.Word
import SqlBuilder.Text.Concealed

/-!
# Quoted text

Messages and descriptions show a text between double quotes, on one line and without characters
that cannot be seen: a quote, a backslash and the common control characters have short escapes, and
every other concealed character is written by its code point.
-/
namespace SqlBuilder

namespace Quoted

/-- A character that has no visible form of its own. -/
def isConcealed (c : Char) : Bool :=
  if c.toNat < 0x80 then c.toNat < 0x20 || c.toNat == 0x7f
  else inRanges concealedRanges c.toNat

/-- The code point in lower-case hexadecimal digits, between braces. -/
def codePoint (c : Char) : List Char :=
  ['\\', 'u', '\x7b'] ++ Nat.toDigits 16 c.toNat ++ ['\x7d']

/-- One character as it stands between the quotes. -/
def escape (c : Char) : List Char :=
  if c = '"' then ['\\', '"']
  else if c = '\\' then ['\\', '\\']
  else if c = '\n' then ['\\', 'n']
  else if c = '\r' then ['\\', 'r']
  else if c = '\t' then ['\\', 't']
  else if c = '\x00' then ['\\', '0']
  else if isConcealed c then codePoint c
  else [c]

end Quoted

/-- A text between double quotes. -/
def quoted (text : String) : String :=
  String.ofList (['"'] ++ text.toList.flatMap Quoted.escape ++ ['"'])

end SqlBuilder
