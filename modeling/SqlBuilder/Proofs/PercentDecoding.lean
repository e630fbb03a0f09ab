import SqlBuilder.Text.Percent
import SqlBuilder.Url.Ipv6

/-!
# Percent decoding

Whoever reads a URL undoes its percent encoding: a percent sign and two hexadecimal digits are a
byte, and everything else stands for itself.  The encodings of a path and of user information leave
percent signs alone.  So a text that holds what looks like an encoded byte is not told apart from a
text that holds the byte: reading the encoded text is reading the text itself (`decode_encode`), and
it comes back just if it holds no such escape (`decodeText?_encode_iff`).

The encoding of options writes percent signs in bytes, too, and loses nothing
(`FormQuery.ofText?_ofOptions`).
-/
namespace SqlBuilder

namespace Percent

/-- The bytes of a text's UTF-8 form. -/
def utf8 (text : List Char) : List UInt8 := text.flatMap String.utf8EncodeChar

/-- The byte that two hexadecimal digits stand for. -/
def octet (high low : Char) : UInt8 := UInt8.ofNat (Ipv6.hexValue high * 16 + Ipv6.hexValue low)

/-- Whether a text begins with a percent sign and two hexadecimal digits. -/
def startsEscape : List Char → Bool
  | '%' :: high :: low :: _ => Ipv6.isHexDigit high && Ipv6.isHexDigit low
  | _ => false

/-- The bytes that a percent-encoded text stands for. -/
def decode : List Char → List UInt8
  | '%' :: high :: low :: rest =>
      if Ipv6.isHexDigit high && Ipv6.isHexDigit low then octet high low :: decode rest
      else String.utf8EncodeChar '%' ++ decode (high :: low :: rest)
  | c :: rest => String.utf8EncodeChar c ++ decode rest
  | [] => []

/-- The text that a percent-encoded text stands for, if its bytes are those of a text. -/
def decodeText? (text : List Char) : Option String := String.fromUTF8? (decode text).toByteArray

/-- Somewhere in a text stands a percent sign with two hexadecimal digits behind it. -/
def HasEscape (text : List Char) : Prop := ∃ rest, rest <:+ text ∧ startsEscape rest = true

theorem utf8_cons (c : Char) (rest : List Char) :
    utf8 (c :: rest) = String.utf8EncodeChar c ++ utf8 rest :=
  List.flatMap_cons

/-! ## Reading character by character -/

theorem startsEscape_of_ne {c : Char} (h : c ≠ '%') (rest : List Char) :
    startsEscape (c :: rest) = false := by
  unfold startsEscape
  split
  · next heq =>
    injection heq with hc
    exact absurd hc h
  · rfl

theorem exists_of_startsEscape {text : List Char} (h : startsEscape text = true) :
    ∃ high low rest, text = '%' :: high :: low :: rest ∧ Ipv6.isHexDigit high = true ∧
      Ipv6.isHexDigit low = true := by
  unfold startsEscape at h
  split at h
  · next high low rest =>
    rw [Bool.and_eq_true] at h
    exact ⟨high, low, rest, rfl, h.1, h.2⟩
  · cases h

theorem decode_escape {high low : Char} (hhigh : Ipv6.isHexDigit high = true)
    (hlow : Ipv6.isHexDigit low = true) (rest : List Char) :
    decode ('%' :: high :: low :: rest) = octet high low :: decode rest := by
  rw [decode, hhigh, hlow]
  rfl

theorem decode_cons {c : Char} {rest : List Char} (h : startsEscape (c :: rest) = false) :
    decode (c :: rest) = String.utf8EncodeChar c ++ decode rest := by
  rw [decode.eq_def]
  split
  · next high low more heq =>
    cases heq
    have hdigits : (Ipv6.isHexDigit high && Ipv6.isHexDigit low) = false := h
    rw [hdigits]
    rfl
  · next heq =>
    cases heq
    rfl
  · next heq => cases heq

theorem decode_cons_of_ne {c : Char} (h : c ≠ '%') (rest : List Char) :
    decode (c :: rest) = String.utf8EncodeChar c ++ decode rest :=
  decode_cons (startsEscape_of_ne h rest)

/-- A text is read character by character, but for the escapes in it. -/
@[elab_as_elim]
theorem induction_escapes {P : List Char → Prop} (nil : P [])
    (escape : ∀ high low rest, Ipv6.isHexDigit high = true → Ipv6.isHexDigit low = true → P rest →
      P ('%' :: high :: low :: rest))
    (char : ∀ c rest, startsEscape (c :: rest) = false → P rest → P (c :: rest))
    (text : List Char) : P text := by
  obtain ⟨n, hn⟩ : ∃ n, text.length ≤ n := ⟨_, Nat.le_refl _⟩
  induction n generalizing text with
  | zero =>
    rw [List.eq_nil_of_length_eq_zero (Nat.le_zero.mp hn)]
    exact nil
  | succ n ih =>
    cases text with
    | nil => exact nil
    | cons c rest =>
      have hrest : rest.length ≤ n := Nat.le_of_succ_le_succ hn
      cases h : startsEscape (c :: rest) with
      | false => exact char c rest h (ih rest hrest)
      | true =>
        obtain ⟨high, low, more, heq, hhigh, hlow⟩ := exists_of_startsEscape h
        cases heq
        rw [List.length_cons, List.length_cons] at hrest
        exact escape high low more hhigh hlow (ih more (by omega))

/-! ## Bytes -/

theorem exists_utf8EncodeChar_eq_cons (c : Char) :
    ∃ b octets, String.utf8EncodeChar c = b :: octets := by
  cases h : String.utf8EncodeChar c with
  | cons b octets => exact ⟨b, octets, rfl⟩
  | nil =>
    have hlength := String.length_utf8EncodeChar c
    rw [h] at hlength
    exact absurd hlength (Nat.ne_of_lt c.utf8Size_pos)

/-- An upper-case hexadecimal digit. -/
def hexDigit (n : Nat) : Char := if n < 10 then Char.ofNat (48 + n) else Char.ofNat (55 + n)

theorem byte_eq (b : UInt8) :
    byte b = ['%', hexDigit (b.toNat / 16), hexDigit (b.toNat % 16)] := rfl

theorem isHexDigit_hexDigit : ∀ n < 16, Ipv6.isHexDigit (hexDigit n) = true := by decide

theorem hexValue_hexDigit : ∀ n < 16, Ipv6.hexValue (hexDigit n) = n := by decide

theorem exists_bytes_eq_cons (c : Char) : ∃ rest, bytes c = '%' :: rest := by
  obtain ⟨b, octets, h⟩ := exists_utf8EncodeChar_eq_cons c
  rw [bytes, h, List.flatMap_cons, byte_eq]
  exact ⟨_, rfl⟩

theorem of_mem_bytes {c d : Char} (h : d ∈ bytes c) : d = '%' ∨ Ipv6.isHexDigit d = true := by
  rw [bytes, List.mem_flatMap] at h
  obtain ⟨b, -, h⟩ := h
  have hb : b.toNat < 256 := b.toNat_lt
  rw [byte_eq] at h
  simp only [List.mem_cons, List.not_mem_nil, or_false] at h
  rcases h with rfl | rfl | rfl
  · exact .inl rfl
  · exact .inr (isHexDigit_hexDigit _ (by omega))
  · exact .inr (isHexDigit_hexDigit _ (by omega))

theorem decode_byte_append (b : UInt8) (rest : List Char) :
    decode (byte b ++ rest) = b :: decode rest := by
  have hb : b.toNat < 256 := b.toNat_lt
  have hhigh : b.toNat / 16 < 16 := by omega
  have hlow : b.toNat % 16 < 16 := by omega
  have hoctet : octet (hexDigit (b.toNat / 16)) (hexDigit (b.toNat % 16)) = b := by
    rw [octet, hexValue_hexDigit _ hhigh, hexValue_hexDigit _ hlow, Nat.div_add_mod',
      UInt8.ofNat_toNat]
  rw [byte_eq]
  show decode ('%' :: hexDigit _ :: hexDigit _ :: rest) = _
  rw [decode_escape (isHexDigit_hexDigit _ hhigh) (isHexDigit_hexDigit _ hlow), hoctet]

theorem decode_flatMap_byte_append (octets : List UInt8) (rest : List Char) :
    decode (octets.flatMap byte ++ rest) = octets ++ decode rest := by
  induction octets with
  | nil => rfl
  | cons b octets ih =>
    rw [List.flatMap_cons, List.append_assoc, decode_byte_append, ih, List.cons_append]

theorem decode_bytes_append (c : Char) (rest : List Char) :
    decode (bytes c ++ rest) = String.utf8EncodeChar c ++ decode rest :=
  decode_flatMap_byte_append _ rest

/-! ## Reading what was encoded -/

/-- A set of characters to encode that leaves escapes as they are. -/
def KeepsEscapes (escaped : Char → Bool) : Prop :=
  escaped '%' = false ∧ ∀ c, Ipv6.isHexDigit c = true → escaped c = false

theorem encode_cons (escaped : Char → Bool) (c : Char) (rest : List Char) :
    encode escaped (c :: rest) = (if escaped c then bytes c else [c]) ++ encode escaped rest :=
  List.flatMap_cons

theorem encode_append (escaped : Char → Bool) (text rest : List Char) :
    encode escaped (text ++ rest) = encode escaped text ++ encode escaped rest :=
  List.flatMap_append

theorem encode_of_forall {escaped : Char → Bool} {text : List Char}
    (h : ∀ c ∈ text, escaped c = false) : encode escaped text = text := by
  induction text with
  | nil => rfl
  | cons c rest ih =>
    rw [encode_cons, h c List.mem_cons_self, if_neg Bool.false_ne_true, List.singleton_append,
      ih fun d hd => h d (List.mem_cons_of_mem c hd)]

/-- What is encoded begins with a percent sign or with the text's own first character. -/
theorem exists_of_encode_eq_cons {escaped : Char → Bool} {text rest : List Char} {c : Char}
    (h : encode escaped text = c :: rest) (hc : c ≠ '%') :
    ∃ more, text = c :: more ∧ rest = encode escaped more := by
  cases text with
  | nil => cases h
  | cons first more =>
    rw [encode_cons] at h
    cases hfirst : escaped first with
    | true =>
      obtain ⟨octets, hbytes⟩ := exists_bytes_eq_cons first
      rw [hfirst, if_pos rfl, hbytes] at h
      injection h with hhead _
      exact absurd hhead.symm hc
    | false =>
      rw [hfirst] at h
      injection h with hhead htail
      exact ⟨more, by rw [hhead], htail.symm⟩

theorem ne_percent_of_isHexDigit {c : Char} (h : Ipv6.isHexDigit c = true) : c ≠ '%' := by
  rintro rfl
  exact absurd h (by decide)

/-- Encoding makes no escape that was not there: only an unencoded digit can complete one. -/
theorem startsEscape_of_encode {escaped : Char → Bool} {rest : List Char}
    (h : startsEscape ('%' :: encode escaped rest) = true) :
    startsEscape ('%' :: rest) = true := by
  obtain ⟨high, low, more, heq, hhigh, hlow⟩ := exists_of_startsEscape h
  injection heq with _ heq
  obtain ⟨behind, rfl, htail⟩ := exists_of_encode_eq_cons heq (ne_percent_of_isHexDigit hhigh)
  obtain ⟨last, rfl, -⟩ := exists_of_encode_eq_cons htail.symm (ne_percent_of_isHexDigit hlow)
  exact Bool.and_eq_true_iff.mpr ⟨hhigh, hlow⟩

/-- Reading what was encoded is reading what it was encoded from. -/
theorem decode_encode {escaped : Char → Bool} (h : KeepsEscapes escaped) (text : List Char) :
    decode (encode escaped text) = decode text := by
  obtain ⟨hpercent, hdigits⟩ := h
  induction text using induction_escapes with
  | nil => rfl
  | escape high low rest hhigh hlow ih =>
    rw [encode_cons, encode_cons, encode_cons, hpercent, hdigits high hhigh, hdigits low hlow]
    show decode ('%' :: high :: low :: encode escaped rest) = _
    rw [decode_escape hhigh hlow, decode_escape hhigh hlow, ih]
  | char c rest hc ih =>
    rw [encode_cons, decode_cons hc]
    cases hescaped : escaped c with
    | true => rw [if_pos rfl, decode_bytes_append, ih]
    | false =>
      have hplain : startsEscape (c :: encode escaped rest) = false := by
        by_cases hp : c = '%'
        · subst hp
          refine Bool.eq_false_iff.mpr fun hstarts => ?_
          exact Bool.eq_false_iff.mp hc (startsEscape_of_encode hstarts)
        · exact startsEscape_of_ne hp _
      rw [if_neg Bool.false_ne_true, List.singleton_append, decode_cons hplain, ih]

/-! ## Texts without escapes -/

theorem hasEscape_cons_iff {c : Char} {rest : List Char} :
    HasEscape (c :: rest) ↔ startsEscape (c :: rest) = true ∨ HasEscape rest := by
  constructor
  · rintro ⟨suffix, hsuffix, h⟩
    rcases List.suffix_cons_iff.mp hsuffix with rfl | hsuffix
    · exact .inl h
    · exact .inr ⟨suffix, hsuffix, h⟩
  · rintro (h | ⟨suffix, hsuffix, h⟩)
    · exact ⟨c :: rest, List.suffix_refl _, h⟩
    · exact ⟨suffix, hsuffix.trans (List.suffix_cons c rest), h⟩

instance decidableHasEscape : (text : List Char) → Decidable (HasEscape text)
  | [] => isFalse fun ⟨rest, hrest, h⟩ => by
      rw [List.suffix_nil.mp hrest] at h
      cases h
  | c :: rest =>
      have := decidableHasEscape rest
      decidable_of_iff (startsEscape (c :: rest) = true ∨ HasEscape rest) hasEscape_cons_iff.symm

/-- An escape stays one wherever its text is put. -/
theorem HasEscape.surrounded {text : List Char} (h : HasEscape text) (before after : List Char) :
    HasEscape (before ++ (text ++ after)) := by
  obtain ⟨suffix, ⟨skipped, rfl⟩, hstarts⟩ := h
  obtain ⟨high, low, rest, rfl, hhigh, hlow⟩ := exists_of_startsEscape hstarts
  refine ⟨('%' :: high :: low :: rest) ++ after, ⟨before ++ skipped, ?_⟩, ?_⟩
  · rw [List.append_assoc, List.append_assoc]
  · exact Bool.and_eq_true_iff.mpr ⟨hhigh, hlow⟩

theorem decode_of_not_hasEscape {text : List Char} (h : ¬ HasEscape text) :
    decode text = utf8 text := by
  induction text with
  | nil => rfl
  | cons c rest ih =>
    rw [hasEscape_cons_iff, not_or] at h
    rw [decode_cons (Bool.eq_false_iff.mpr h.1), ih h.2, utf8_cons]

theorem length_utf8_cons (c : Char) (rest : List Char) :
    (utf8 (c :: rest)).length = c.utf8Size + (utf8 rest).length := by
  rw [utf8_cons, List.length_append, String.length_utf8EncodeChar]

/-- Every character that is left out leaves out a byte. -/
theorem length_utf8_filter_le (kept : Char → Bool) (text : List Char) :
    (utf8 (text.filter kept)).length + text.countP (fun c => !kept c) ≤ (utf8 text).length := by
  induction text with
  | nil => exact Nat.le_refl 0
  | cons c rest ih =>
    have hsize := c.utf8Size_pos
    cases hc : kept c with
    | true =>
      rw [List.filter_cons_of_pos hc, List.countP_cons_of_neg (by simp [hc]), length_utf8_cons,
        length_utf8_cons]
      omega
    | false =>
      rw [List.filter_cons_of_neg (by simp [hc]), List.countP_cons_of_pos (by simp [hc]),
        length_utf8_cons]
      omega

theorem length_decode_le (text : List Char) : (decode text).length ≤ (utf8 text).length := by
  induction text using induction_escapes with
  | nil => exact Nat.le_refl 0
  | escape high low rest hhigh hlow ih =>
    rw [decode_escape hhigh hlow, List.length_cons, length_utf8_cons, length_utf8_cons,
      length_utf8_cons]
    have hpercent := ('%').utf8Size_pos
    omega
  | char c rest hc ih =>
    rw [decode_cons hc, List.length_append, String.length_utf8EncodeChar, length_utf8_cons]
    omega

/-- An escape is three characters and one byte. -/
theorem length_decode_lt {text : List Char} (h : HasEscape text) :
    (decode text).length < (utf8 text).length := by
  induction text using induction_escapes with
  | nil =>
    obtain ⟨rest, hrest, hstarts⟩ := h
    rw [List.suffix_nil.mp hrest] at hstarts
    cases hstarts
  | escape high low rest hhigh hlow ih =>
    rw [decode_escape hhigh hlow, List.length_cons, length_utf8_cons, length_utf8_cons,
      length_utf8_cons]
    have hrest := length_decode_le rest
    have hpercent := ('%').utf8Size_pos
    have hhigh_size := high.utf8Size_pos
    have hlow_size := low.utf8Size_pos
    omega
  | char c rest hc ih =>
    have hrest : HasEscape rest := by
      rcases hasEscape_cons_iff.mp h with hstarts | hrest
      · exact absurd hstarts (Bool.eq_false_iff.mp hc)
      · exact hrest
    have hlt := ih hrest
    rw [decode_cons hc, List.length_append, String.length_utf8EncodeChar, length_utf8_cons]
    omega

theorem decode_eq_utf8_iff (text : List Char) : decode text = utf8 text ↔ ¬ HasEscape text := by
  constructor
  · intro h hescape
    exact absurd (congrArg List.length h) (Nat.ne_of_lt (length_decode_lt hescape))
  · exact decode_of_not_hasEscape

/-! ## Texts from bytes -/

theorem toByteArray_utf8 (s : String) : (utf8 s.toList).toByteArray = s.toByteArray := by
  have h : (String.ofList s.toList).toByteArray = (utf8 s.toList).toByteArray :=
    String.toByteArray_ofList
  rw [String.ofList_toList] at h
  exact h.symm

theorem utf8_injective {text other : List Char} (h : utf8 text = utf8 other) : text = other := by
  have htext := toByteArray_utf8 (String.ofList text)
  have hother := toByteArray_utf8 (String.ofList other)
  rw [String.toList_ofList] at htext hother
  have hstring : String.ofList text = String.ofList other := by
    rw [← String.toByteArray_inj, ← htext, ← hother, h]
  exact String.ofList_injective hstring

theorem fromUTF8?_eq_some_iff (octets : ByteArray) (s : String) :
    String.fromUTF8? octets = some s ↔ octets = s.toByteArray := by
  unfold String.fromUTF8?
  constructor
  · intro h
    split at h
    · cases h
      rfl
    · cases h
  · rintro rfl
    rw [dif_pos s.isValidUTF8]
    rfl

theorem decodeText?_eq_some_iff (text : List Char) (s : String) :
    decodeText? text = some s ↔ decode text = utf8 s.toList := by
  rw [decodeText?, fromUTF8?_eq_some_iff, ← toByteArray_utf8, List.toByteArray_inj]

/-- A text that is encoded so that escapes stay as they are comes back just if it has none. -/
theorem decodeText?_encode_iff {escaped : Char → Bool} (h : KeepsEscapes escaped) (s : String) :
    decodeText? (encode escaped s.toList) = some s ↔ ¬ HasEscape s.toList := by
  rw [decodeText?_eq_some_iff, decode_encode h, decode_eq_utf8_iff]

/-! ## Characters that encodings keep -/

/-- What holds of all ASCII characters can be checked one by one. -/
theorem of_forall_ascii {P : Char → Bool} (h : ∀ n < 0x80, P (Char.ofNat n) = true) {c : Char}
    (hc : c.toNat < 0x80) : P c = true := by
  rw [← Char.ofNat_toNat c]
  exact h _ hc

theorem toNat_lt_of_isHexDigit {c : Char} (h : Ipv6.isHexDigit c = true) : c.toNat < 0x80 := by
  simp only [Ipv6.isHexDigit, Char.isDigit, Bool.or_eq_true, Bool.and_eq_true, decide_eq_true_eq,
    Char.le_def, UInt32.le_iff_toNat_le] at h
  have hnine : ('9').val.toNat = 57 := rfl
  have hlower : ('f').val.toNat = 102 := rfl
  have hupper : ('F').val.toNat = 70 := rfl
  show c.val.toNat < 0x80
  omega

theorem keepsEscapes_inUserInfo : KeepsEscapes inUserInfo := by
  refine ⟨by decide, fun c hc => ?_⟩
  have h := of_forall_ascii (P := fun c => !Ipv6.isHexDigit c || !inUserInfo c) (by decide)
    (toNat_lt_of_isHexDigit hc)
  rw [hc, Bool.not_true, Bool.false_or, Bool.not_eq_true'] at h
  exact h

/-- What is written in bytes in a path is so in user information. -/
theorem inUserInfo_of_inPath {c : Char} (h : inPath c = true) : inUserInfo c = true := by
  rw [inUserInfo, h, Bool.true_or]

theorem keepsEscapes_inPath : KeepsEscapes inPath := by
  obtain ⟨hpercent, hdigits⟩ := keepsEscapes_inUserInfo
  refine ⟨by decide, fun c hc => Bool.eq_false_iff.mpr fun h => ?_⟩
  exact Bool.eq_false_iff.mp (hdigits c hc) (inUserInfo_of_inPath h)

/-- An encoded text holds only percent signs, hexadecimal digits and characters that are not
encoded. -/
theorem of_mem_encode {escaped : Char → Bool} {text : List Char} {c : Char}
    (h : c ∈ encode escaped text) :
    c = '%' ∨ Ipv6.isHexDigit c = true ∨ (c ∈ text ∧ escaped c = false) := by
  rw [encode, List.mem_flatMap] at h
  obtain ⟨d, hd, h⟩ := h
  cases hescaped : escaped d with
  | false =>
    rw [hescaped, if_neg Bool.false_ne_true, List.mem_singleton] at h
    subst h
    exact .inr (.inr ⟨hd, hescaped⟩)
  | true =>
    rw [hescaped, if_pos rfl] at h
    exact (of_mem_bytes h).imp_right .inl

end Percent

/-! ## Options -/

namespace FormQuery

/-- The text of one side of an option: a plus sign is a space, and the rest is percent-decoded. -/
def decodeText? (text : List Char) : Option String :=
  Percent.decodeText? (text.map fun c => if c = '+' then ' ' else c)

/-- An option as it is written: a name, and a value behind the first equals sign. -/
def ofPair? (text : List Char) : Option (String × String) := do
  let name ← decodeText? (text.takeWhile (· ≠ '='))
  let value ← decodeText? ((text.dropWhile (· ≠ '=')).drop 1)
  return (name, value)

/-- The options of a query: those between ampersands that are not empty. -/
def ofText? (query : List Char) : Option (List (String × String)) :=
  ((query.splitOn '&').filter fun part => !part.isEmpty).mapM ofPair?

theorem encode_cons (c : Char) (rest : List Char) :
    encode (c :: rest) =
      (if isPlain c then [c] else if c = ' ' then ['+'] else Percent.bytes c) ++ encode rest :=
  List.flatMap_cons

/-- The characters of which the sides of an option are written. -/
def isWritten (c : Char) : Bool := isPlain c || c == '+' || c == '%' || Ipv6.isHexDigit c

theorem isWritten_of_mem_encode {text : List Char} {c : Char} (h : c ∈ encode text) :
    isWritten c = true := by
  rw [encode, List.mem_flatMap] at h
  obtain ⟨d, -, h⟩ := h
  split at h
  · next hplain =>
    rw [List.mem_singleton] at h
    subst h
    rw [isWritten, hplain, Bool.true_or, Bool.true_or, Bool.true_or]
  · split at h
    · rw [List.mem_singleton] at h
      subst h
      decide
    · rcases Percent.of_mem_bytes h with rfl | h
      · decide
      · rw [isWritten, h, Bool.or_true]

theorem not_mem_encode {c : Char} (h : isWritten c = false) (text : List Char) :
    c ∉ encode text := by
  intro hmem
  rw [isWritten_of_mem_encode hmem] at h
  cases h

theorem not_mem_pair {c : Char} (h : isWritten c = false) (hequals : c ≠ '=')
    (option : String × String) : c ∉ pair option := by
  rw [pair, List.mem_append, List.mem_append, List.mem_singleton, not_or, not_or]
  exact ⟨⟨not_mem_encode h _, hequals⟩, not_mem_encode h _⟩

theorem not_mem_ofOptions {c : Char} (h : isWritten c = false) (hequals : c ≠ '=')
    (hampersand : c ≠ '&') (options : List (String × String)) : c ∉ ofOptions options := by
  induction options with
  | nil => exact List.not_mem_nil
  | cons option rest ih =>
    cases rest with
    | nil => simpa [ofOptions] using not_mem_pair h hequals option
    | cons next rest =>
      have hcons : ofOptions (option :: next :: rest) =
          pair option ++ ['&'] ++ ofOptions (next :: rest) := List.intercalate_cons_cons
      rw [hcons, List.mem_append, List.mem_append, List.mem_singleton, not_or, not_or]
      exact ⟨⟨not_mem_pair h hequals option, hampersand⟩, ih⟩

/-- Every text comes back from its encoding in an option. -/
theorem decodeText?_encode (s : String) : decodeText? (encode s.toList) = some s := by
  rw [decodeText?, Percent.decodeText?_eq_some_iff]
  induction s.toList with
  | nil => rfl
  | cons c rest ih =>
    rw [encode_cons, List.map_append, Percent.utf8_cons, ← ih]
    split
    · next hplain =>
      have hplus : c ≠ '+' := by
        rintro rfl
        exact absurd hplain (by decide)
      have hpercent : c ≠ '%' := by
        rintro rfl
        exact absurd hplain (by decide)
      rw [List.map_singleton, if_neg hplus, List.singleton_append,
        Percent.decode_cons_of_ne hpercent]
    · split
      · next hspace =>
        subst hspace
        exact Percent.decode_cons_of_ne (by decide) _
      · have hkept : (Percent.bytes c).map (fun c => if c = '+' then ' ' else c) =
            Percent.bytes c := by
          refine (List.map_congr_left fun d hd => ?_).trans (List.map_id _)
          refine if_neg ?_
          rintro rfl
          rcases Percent.of_mem_bytes hd with h | h
          · exact absurd h (by decide)
          · exact absurd h (by decide)
        rw [hkept, Percent.decode_bytes_append]

theorem ofPair?_pair (option : String × String) : ofPair? (pair option) = some option := by
  obtain ⟨name, value⟩ := option
  have hname : ∀ c ∈ encode name.toList, decide (c ≠ '=') = true := by
    intro c hc
    refine decide_eq_true ?_
    rintro rfl
    exact not_mem_encode (by decide) _ hc
  have hpair : pair (name, value) = encode name.toList ++ '=' :: encode value.toList := by
    rw [pair, List.append_assoc, List.singleton_append]
  have hequals : decide ('=' ≠ '=') = false := by decide
  rw [ofPair?, hpair, List.takeWhile_append_of_pos hname, List.dropWhile_append_of_pos hname,
    List.takeWhile_cons, List.dropWhile_cons, hequals, if_neg Bool.false_ne_true,
    if_neg Bool.false_ne_true, List.append_nil, List.drop_one, List.tail_cons,
    decodeText?_encode, decodeText?_encode]
  rfl

theorem mapM_ofPair?_map_pair (options : List (String × String)) :
    (options.map pair).mapM ofPair? = some options := by
  induction options with
  | nil => rfl
  | cons option options ih =>
    rw [List.map_cons, List.mapM_cons, ofPair?_pair, ih]
    rfl

/-- **Options come back** from the query that they are written as, whatever they hold. -/
theorem ofText?_ofOptions (options : List (String × String)) :
    ofText? (ofOptions options) = some options := by
  by_cases hoptions : options = []
  · subst hoptions
    rfl
  · have hparts : ∀ part ∈ options.map pair, '&' ∉ part := by
      intro part hpart hmem
      obtain ⟨option, -, rfl⟩ := List.mem_map.mp hpart
      exact not_mem_pair (by decide) (by decide) option hmem
    have hsome : options.map pair ≠ [] := fun h => hoptions (List.map_eq_nil_iff.mp h)
    have hfull : (options.map pair).filter (fun part => !part.isEmpty) = options.map pair := by
      refine List.filter_eq_self.mpr fun part hpart => ?_
      obtain ⟨option, -, rfl⟩ := List.mem_map.mp hpart
      rw [pair, List.append_assoc]
      cases encode option.1.toList <;> rfl
    rw [ofText?, ofOptions, List.splitOn_intercalate '&' hparts hsome, hfull,
      mapM_ofPair?_map_pair]

end FormQuery

end SqlBuilder
