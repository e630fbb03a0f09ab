/-!
# IPv6 addresses

An address is eight pieces of 16 bits.  Its text writes them in hexadecimal digits between colons;
one run of zero pieces may be left out between two colons, and the last two pieces may be written as
four decimal numbers.  The written form that this module gives leaves out the first of the longest
runs of at least two zeros.
-/
namespace SqlBuilder.Ipv6

def isHexDigit (c : Char) : Bool :=
  c.isDigit || ('a' ≤ c && c ≤ 'f') || ('A' ≤ c && c ≤ 'F')

def hexValue (c : Char) : Nat :=
  if c.isDigit then c.toNat - 48 else if 'a' ≤ c then c.toNat - 87 else c.toNat - 55

/-- The hexadecimal digits at the front of a text, at most four. -/
def pieceDigits (text : List Char) : List Char := (text.take 4).takeWhile isHexDigit

def pieceValue (digits : List Char) : Nat := digits.foldl (fun n c => n * 16 + hexValue c) 0

/-- The number of an octet in decimal digits, without leading zeros. -/
def octet? (digits : List Char) : Option Nat :=
  if digits.isEmpty || !digits.all Char.isDigit || 3 < digits.length then none
  else if digits.head? = some '0' ∧ digits.length ≠ 1 then none
  else
    let n := digits.foldl (fun n c => n * 10 + (c.toNat - 48)) 0
    if n ≤ 255 then some n else none

/-- Two pieces written as four octets. -/
def dotted? (text : List Char) : Option (List Nat) :=
  match (text.splitOn '.').map octet? with
  | [some a, some b, some c, some d] => some [a * 256 + b, c * 256 + d]
  | _ => none

/-- All eight pieces, where `gap` is the place at which zeros were left out. -/
def complete? (pieces : List Nat) (gap : Option Nat) : Option (List Nat) :=
  match gap with
  | none => if pieces.length = 8 then some pieces else none
  | some gap => some (pieces.take gap ++ List.replicate (8 - pieces.length) 0 ++ pieces.drop gap)

theorem length_drop_pieceDigits_le (text : List Char) :
    (text.drop (pieceDigits text).length).length ≤ text.length := by
  simp

/-- Reads pieces behind those already read.  A gap counts as at least one zero piece. -/
def pieces? (pieces : List Nat) (gap : Option Nat) (text : List Char) : Option (List Nat) :=
  match text with
  | [] => complete? pieces gap
  | c :: rest =>
      if pieces.length = 8 then none
      else if c = ':' then
        if gap.isSome then none else pieces? (pieces ++ [0]) (some (pieces.length + 1)) rest
      else
        let digits := pieceDigits (c :: rest)
        match h : (c :: rest).drop digits.length with
        | [] => complete? (pieces ++ [pieceValue digits]) gap
        | '.' :: _ =>
            if digits.isEmpty || 6 < pieces.length then none
            else (dotted? (c :: rest)).bind fun last => complete? (pieces ++ last) gap
        | ':' :: more =>
            have : more.length < (c :: rest).length := by
              have := length_drop_pieceDigits_le (c :: rest)
              rw [h] at this
              exact this
            if more.isEmpty then none else pieces? (pieces ++ [pieceValue digits]) gap more
        | _ => none
termination_by text.length
decreasing_by
  · exact Nat.lt_succ_self _
  · exact this

/-- The eight pieces of an address. -/
def ofText? (text : List Char) : Option (List Nat) :=
  match text with
  | ':' :: ':' :: rest => pieces? [0] (some 1) rest
  | ':' :: _ => none
  | text => pieces? [] none text

/-- How many zeros stand at the front. -/
def zeros (pieces : List Nat) : Nat := (pieces.takeWhile (· = 0)).length

/-- The place and length of the first of the longest runs of zeros. -/
def longestRun (pieces : List Nat) : Nat × Nat :=
  (List.range pieces.length).foldl
    (fun best place =>
      if best.2 < zeros (pieces.drop place) then (place, zeros (pieces.drop place)) else best)
    (0, 0)

def joined (pieces : List Nat) : List Char :=
  [':'].intercalate (pieces.map fun piece => Nat.toDigits 16 piece)

/-- The written form of an address. -/
def render (pieces : List Nat) : List Char :=
  let (place, length) := longestRun pieces
  if length < 2 then joined pieces
  else joined (pieces.take place) ++ [':', ':'] ++ joined (pieces.drop (place + length))

end SqlBuilder.Ipv6
