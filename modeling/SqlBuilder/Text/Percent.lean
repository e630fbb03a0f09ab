/-!
# Percent encoding

The parts of a URL write some characters as the bytes of their UTF-8 form, each byte as a percent
sign and two upper-case hexadecimal digits.  Which characters those are depends on the part; the
sets grow from the fragment over the path to the user information.  An options query has an encoding
of its own, in which a space becomes a plus sign and everything but a few ASCII characters is
written in bytes.
-/
namespace SqlBuilder

namespace Percent

/-- A byte as a percent sign and two hexadecimal digits. -/
def byte (b : UInt8) : List Char :=
  let digit (n : Nat) : Char := if n < 10 then Char.ofNat (48 + n) else Char.ofNat (55 + n)
  ['%', digit (b.toNat / 16), digit (b.toNat % 16)]

/-- The bytes of a character's UTF-8 form, one after the other. -/
def bytes (c : Char) : List Char :=
  (String.utf8EncodeChar c).flatMap byte

/-- Writes the characters that `escaped` selects in bytes and keeps the others. -/
def encode (escaped : Char → Bool) (text : List Char) : List Char :=
  text.flatMap fun c => if escaped c then bytes c else [c]

/-- Control characters and everything beyond ASCII. -/
def inHost (c : Char) : Bool := c.toNat < 0x20 || 0x7f ≤ c.toNat

def inFragment (c : Char) : Bool := inHost c || c ∈ [' ', '"', '<', '>', '\x60']

def inQuery (c : Char) : Bool := inHost c || c ∈ [' ', '"', '#', '<', '>']

def inPath (c : Char) : Bool := inFragment c || c ∈ ['#', '?', '\x7b', '\x7d']

def inUserInfo (c : Char) : Bool :=
  inPath c || c ∈ ['/', ':', ';', '=', '@', '[', '\\', ']', '^', '|']

end Percent

namespace FormQuery

/-- The characters that an options query shows as they are. -/
def isPlain (c : Char) : Bool :=
  c.isAlphanum || c ∈ ['*', '-', '.', '_']

def encode (text : List Char) : List Char :=
  text.flatMap fun c => if isPlain c then [c] else if c = ' ' then ['+'] else Percent.bytes c

/-- One option as `name=value`. -/
def pair (option : String × String) : List Char :=
  encode option.1.toList ++ ['='] ++ encode option.2.toList

/-- Options in the given order, joined by ampersands. -/
def ofOptions (options : List (String × String)) : List Char :=
  ['&'].intercalate (options.map pair)

end FormQuery

end SqlBuilder
