import SqlBuilder.Binary.Rounding

/-!
# Numbers that a binary format holds

Rounding is stated for a ratio of two whole numbers.  Here it is applied to a significand and an
exponent that stand for a number of the format in some scale, as they do after a conversion from a
wider format: then nothing is rounded (`ofScaled_of_hasValue`).  Every single is also a double, of
the same sign and with its significand shifted to full width (`hasValue_widen`), so a single that
was widened and narrowed again is the same single (`narrow_widen`).
-/
namespace SqlBuilder

/-! ## The size of a ratio -/

theorem pow_two_pos (k : Nat) : 0 < Nat.pow 2 k := Nat.two_pow_pos k

theorem pow_two_add (k l : Nat) : Nat.pow 2 (k + l) = Nat.pow 2 k * Nat.pow 2 l :=
  Nat.pow_add 2 k l

theorem log2_mul_pow_two {n : Nat} (hn : n ≠ 0) (k : Nat) :
    (n * Nat.pow 2 k).log2 = n.log2 + k := by
  have hne : n * Nat.pow 2 k ≠ 0 := Nat.mul_ne_zero hn (Nat.ne_of_gt (pow_two_pos k))
  have hlower : Nat.pow 2 n.log2 ≤ n := Nat.log2_self_le hn
  have hupper : n < Nat.pow 2 (n.log2 + 1) := Nat.lt_log2_self
  refine (Nat.log2_eq_iff hne).mpr ⟨?_, ?_⟩
  · show Nat.pow 2 (n.log2 + k) ≤ n * Nat.pow 2 k
    rw [pow_two_add]
    exact Nat.mul_le_mul_right _ hlower
  · show n * Nat.pow 2 k < Nat.pow 2 (n.log2 + k + 1)
    rw [Nat.add_right_comm, pow_two_add]
    exact Nat.mul_lt_mul_of_pos_right hupper (pow_two_pos k)

/-- A scaled number is as large as its significand, moved by its exponent. -/
theorem ratioLog2_scaled {s : Nat} (hs : s ≠ 0) (e : Int) :
    ratioLog2 (s * Nat.pow 2 e.toNat) (Nat.pow 2 (-e).toNat) = s.log2 + e := by
  have hd : (Nat.pow 2 (-e).toNat).log2 = (-e).toNat := Nat.log2_two_pow
  have hk : ((s * Nat.pow 2 e.toNat).log2 : Int) - ((Nat.pow 2 (-e).toNat).log2 : Int) =
      s.log2 + e := by
    rw [log2_mul_pow_two hs, hd]
    omega
  have hlower : Nat.pow 2 s.log2 ≤ s := Nat.log2_self_le hs
  have hfits : Nat.pow 2 (-e).toNat * Nat.pow 2 (s.log2 + e).toNat ≤
      s * Nat.pow 2 e.toNat * Nat.pow 2 (-(s.log2 + e)).toNat := by
    have hexponents : (-e).toNat + (s.log2 + e).toNat =
        s.log2 + (e.toNat + (-(s.log2 + e)).toNat) := by omega
    rw [Nat.mul_assoc, ← pow_two_add, ← pow_two_add, hexponents, pow_two_add]
    exact Nat.mul_le_mul_right _ hlower
  simp only [ratioLog2, hk]
  rw [if_pos hfits]

theorem roundHalfEven_mul (n : Nat) {d : Nat} (hd : 0 < d) : roundHalfEven (n * d) d = n := by
  rw [roundHalfEven, Nat.mul_div_cancel n hd, Nat.mul_mod_left, if_pos hd]

namespace Floating

variable {f : BinaryFormat}

/-! ## What a finite number shows -/

/-- A number is finite, with a sign, a significand and the exponent of its last place.  The exponent
is the least one unless the significand has its full width. -/
structure HasValue (x : Floating f) (negative : Bool) (s : Nat) (e : Int) : Prop where
  sign : x.isNegative = negative
  place : f.minExponent ≤ e
  width : s < Nat.pow 2 f.fractionBits * 2
  full : e = f.minExponent ∨ Nat.pow 2 f.fractionBits ≤ s
  magnitude : x.magnitude = (e - f.minExponent).toNat * Nat.pow 2 f.fractionBits + s
  finite : x.magnitude < f.infiniteMagnitude

theorem hasValue_of_view {x : Floating f} {negative : Bool} {s : Nat} {e : Int}
    (h : x.view = .finite negative s e) : x.HasValue negative s e := by
  have hpos := pow_two_pos f.fractionBits
  have hsplit := Nat.div_add_mod x.magnitude (Nat.pow 2 f.fractionBits)
  have hmod := Nat.mod_lt x.magnitude hpos
  simp only [view] at h
  split at h
  · cases h
  · split at h
    · cases h
    · next hnan hinfinite =>
      have hfinite : x.magnitude < f.infiniteMagnitude := by omega
      split at h
      · next hzero =>
        cases h
        rw [hzero, Nat.mul_zero, Nat.zero_add] at hsplit
        refine ⟨rfl, Int.le_refl _, by omega, .inl rfl, ?_, hfinite⟩
        rw [Int.sub_self, Int.toNat_zero, Nat.zero_mul, Nat.zero_add, hsplit]
      · next hbiased =>
        cases h
        obtain ⟨b, hb⟩ := Nat.exists_eq_succ_of_ne_zero hbiased
        rw [hb] at hsplit ⊢
        refine ⟨rfl, by omega, by omega, .inr (Nat.le_add_right _ _), ?_, hfinite⟩
        have hexponent :
            (f.minExponent + ((b.succ - 1 : Nat) : Int) - f.minExponent).toNat = b := by
          omega
        rw [hexponent, ← Nat.add_assoc, ← Nat.succ_mul, Nat.mul_comm]
        exact hsplit.symm

theorem view_of_hasValue {x : Floating f} {negative : Bool} {s : Nat} {e : Int}
    (h : x.HasValue negative s e) : x.view = .finite negative s e := by
  obtain ⟨hsign, hplace, hwidth, hfull, hmagnitude, hfinite⟩ := h
  have hpos := pow_two_pos f.fractionBits
  have hnan : ¬ f.infiniteMagnitude < x.magnitude := by omega
  have hinfinite : ¬ f.infiniteMagnitude = x.magnitude := by omega
  simp only [view, if_neg hnan, if_neg hinfinite, hsign]
  by_cases hs : s < Nat.pow 2 f.fractionBits
  · have he : e = f.minExponent := by omega
    subst he
    rw [Int.sub_self, Int.toNat_zero, Nat.zero_mul, Nat.zero_add] at hmagnitude
    rw [hmagnitude, if_pos (Nat.div_eq_of_lt hs), Nat.mod_eq_of_lt hs]
  · -- The leading bit of the significand counts into the exponent field.
    obtain ⟨fraction, rfl⟩ := Nat.exists_eq_add_of_le (Nat.le_of_not_lt hs)
    have hfraction : fraction < Nat.pow 2 f.fractionBits := by omega
    have hmagnitude' : x.magnitude =
        fraction + Nat.pow 2 f.fractionBits * ((e - f.minExponent).toNat + 1) := by
      rw [hmagnitude, Nat.mul_succ, Nat.mul_comm (Nat.pow 2 f.fractionBits)]
      omega
    have hbiased : x.magnitude / Nat.pow 2 f.fractionBits = (e - f.minExponent).toNat + 1 := by
      rw [hmagnitude', Nat.add_mul_div_left _ _ hpos, Nat.div_eq_of_lt hfraction, Nat.zero_add]
    have hmod : x.magnitude % Nat.pow 2 f.fractionBits = fraction := by
      rw [hmagnitude', Nat.add_mul_mod_self_left, Nat.mod_eq_of_lt hfraction]
    have hexponent : f.minExponent + (((e - f.minExponent).toNat + 1 - 1 : Nat) : Int) = e := by
      omega
    rw [hbiased, hmod, if_neg (Nat.succ_ne_zero _), hexponent]

/-! ## Numbers from their magnitude -/

theorem infiniteMagnitude_lt (f : BinaryFormat) :
    f.infiniteMagnitude < Nat.pow 2 f.magnitudeBits := by
  rw [BinaryFormat.infiniteMagnitude, BinaryFormat.magnitudeBits, pow_two_add]
  have hexponent := pow_two_pos f.exponentBits
  exact Nat.mul_lt_mul_of_pos_right (by omega) (pow_two_pos f.fractionBits)

theorem toNat_bits_ofMagnitude (negative : Bool) {m : Nat} (h : m < Nat.pow 2 f.magnitudeBits) :
    (ofMagnitude f negative m).bits.toNat =
      if negative then Nat.pow 2 f.magnitudeBits + m else m := by
  have hwidth : 2 ^ f.width = Nat.pow 2 f.magnitudeBits * 2 := pow_two_add f.magnitudeBits 1
  rw [ofMagnitude, BitVec.toNat_ofNat, hwidth]
  refine Nat.mod_eq_of_lt ?_
  split <;> omega

theorem isNegative_ofMagnitude (negative : Bool) {m : Nat} (h : m < Nat.pow 2 f.magnitudeBits) :
    (ofMagnitude f negative m).isNegative = negative := by
  rw [isNegative, toNat_bits_ofMagnitude negative h]
  cases negative with
  | false => exact decide_eq_false (Nat.not_le_of_lt h)
  | true => exact decide_eq_true (Nat.le_add_right _ _)

theorem magnitude_ofMagnitude (negative : Bool) {m : Nat} (h : m < Nat.pow 2 f.magnitudeBits) :
    (ofMagnitude f negative m).magnitude = m := by
  rw [magnitude, toNat_bits_ofMagnitude negative h]
  cases negative with
  | false => exact Nat.mod_eq_of_lt h
  | true =>
    rw [if_pos rfl, Nat.add_mod_left]
    exact Nat.mod_eq_of_lt h

theorem ofMagnitude_self (x : Floating f) : ofMagnitude f x.isNegative x.magnitude = x := by
  have hmagnitude : x.magnitude < Nat.pow 2 f.magnitudeBits := Nat.mod_lt _ (pow_two_pos _)
  have hwidth : x.bits.toNat < Nat.pow 2 f.magnitudeBits * 2 :=
    Nat.lt_of_lt_of_eq x.bits.isLt (pow_two_add f.magnitudeBits 1)
  have hbits : (ofMagnitude f x.isNegative x.magnitude).bits.toNat = x.bits.toNat := by
    rw [toNat_bits_ofMagnitude _ hmagnitude, isNegative, magnitude]
    by_cases h : Nat.pow 2 f.magnitudeBits ≤ x.bits.toNat
    · rw [if_pos (decide_eq_true h), Nat.mod_eq_sub_mod h, Nat.mod_eq_of_lt (by omega)]
      omega
    · rw [if_neg (by rwa [decide_eq_true_eq]), Nat.mod_eq_of_lt (by omega)]
  obtain ⟨bits⟩ := x
  exact congrArg Floating.mk (BitVec.eq_of_toNat_eq hbits)

/-! ## Exact conversions -/

/-- A scaled number that is a whole multiple of its last place is not rounded. -/
theorem ofScaled_of_exact (negative : Bool) {s t : Nat} {e p : Int} (hs : s ≠ 0)
    (hp : max f.minExponent (s.log2 + e - f.fractionBits) = p)
    (ht : s * Nat.pow 2 (e - p).toNat = t * Nat.pow 2 (p - e).toNat) :
    ofScaled f negative s e =
      ofMagnitude f negative
        (min ((p - f.minExponent).toNat * Nat.pow 2 f.fractionBits + t) f.infiniteMagnitude) := by
  have hn : s * Nat.pow 2 e.toNat ≠ 0 := Nat.mul_ne_zero hs (Nat.ne_of_gt (pow_two_pos _))
  have hd : 0 < Nat.pow 2 (-e).toNat * Nat.pow 2 p.toNat :=
    Nat.mul_pos (pow_two_pos _) (pow_two_pos _)
  have hmultiple : s * Nat.pow 2 e.toNat * Nat.pow 2 (-p).toNat =
      t * (Nat.pow 2 (-e).toNat * Nat.pow 2 p.toNat) := by
    obtain ⟨c, hup, hdown⟩ : ∃ c, e.toNat + (-p).toNat = (e - p).toNat + c ∧
        (-e).toNat + p.toNat = (p - e).toNat + c :=
      ⟨e.toNat + (-p).toNat - (e - p).toNat, by omega, by omega⟩
    rw [Nat.mul_assoc, ← pow_two_add, ← pow_two_add, hup, hdown, pow_two_add, pow_two_add,
      ← Nat.mul_assoc, ← Nat.mul_assoc, ht]
  simp only [ofScaled, ofRatio, if_neg hn, ratioLog2_scaled hs, hp, hmultiple,
    roundHalfEven_mul t hd]

/-- A number of the format is rounded to itself, whatever the scale it is given in. -/
theorem ofScaled_of_hasValue {x : Floating f} {negative : Bool} {s : Nat} {e : Int}
    (h : x.HasValue negative s e) (k : Nat) :
    ofScaled f negative (s * Nat.pow 2 k) (e - k) = x := by
  obtain ⟨hsign, hplace, hwidth, hfull, hmagnitude, hfinite⟩ := h
  by_cases hs : s = 0
  · subst hs
    have hpos := pow_two_pos f.fractionBits
    have he : e = f.minExponent := by omega
    rw [he, Int.sub_self, Int.toNat_zero, Nat.zero_mul, Nat.zero_add] at hmagnitude
    have hzero : zero f negative = x := by
      rw [zero, ← hmagnitude, ← hsign, ofMagnitude_self]
    rw [ofScaled, ofRatio, Nat.zero_mul, Nat.zero_mul, if_pos rfl, hzero]
  · have hscaled : s * Nat.pow 2 k ≠ 0 := Nat.mul_ne_zero hs (Nat.ne_of_gt (pow_two_pos k))
    have hlog : s.log2 < f.fractionBits + 1 :=
      (Nat.log2_lt hs).mpr (Nat.lt_of_lt_of_eq hwidth (pow_two_add f.fractionBits 1).symm)
    have hlog_full : e = f.minExponent ∨ f.fractionBits ≤ s.log2 := by
      refine hfull.imp_right fun hle => ?_
      exact (Nat.le_log2 hs).mpr hle
    have hp : max f.minExponent ((s * Nat.pow 2 k).log2 + (e - k) - f.fractionBits) = e := by
      rw [log2_mul_pow_two hs]
      omega
    have ht : s * Nat.pow 2 k * Nat.pow 2 ((e - k) - e).toNat =
        s * Nat.pow 2 (e - (e - k)).toNat := by
      have hdown : ((e - k) - e).toNat = 0 := by omega
      have hup : (e - (e - k)).toNat = k := by omega
      rw [hdown, hup, Nat.mul_assoc, ← pow_two_add, Nat.add_zero]
    rw [ofScaled_of_exact negative hscaled hp ht, ← hmagnitude, Nat.min_eq_left (by omega), ← hsign,
      ofMagnitude_self]

/-- Significands, exponents and signs that a format has room for are those of a number. -/
theorem hasValue_ofMagnitude (negative : Bool) {s : Nat} {e : Int} (hplace : f.minExponent ≤ e)
    (hwidth : s < Nat.pow 2 f.fractionBits * 2)
    (hfull : e = f.minExponent ∨ Nat.pow 2 f.fractionBits ≤ s)
    (hfinite : (e - f.minExponent).toNat * Nat.pow 2 f.fractionBits + s < f.infiniteMagnitude) :
    (ofMagnitude f negative
      ((e - f.minExponent).toNat * Nat.pow 2 f.fractionBits + s)).HasValue negative s e := by
  have hroom := Nat.lt_trans hfinite (infiniteMagnitude_lt f)
  have hmagnitude := magnitude_ofMagnitude negative hroom
  refine ⟨isNegative_ofMagnitude negative hroom, hplace, hwidth, hfull, hmagnitude, ?_⟩
  rw [hmagnitude]
  exact hfinite

/-! ## Singles among the doubles -/

theorem widen_of_hasValue {x : Single} {negative : Bool} {s : Nat} {e : Int}
    (h : x.HasValue negative s e) : x.widen = ofScaled .double negative s e := by
  rw [widen, convert, view_of_hasValue h]

theorem narrow_of_hasValue {x : Double} {negative : Bool} {s : Nat} {e : Int}
    (h : x.HasValue negative s e) : x.narrow = ofScaled .single negative s e := by
  rw [narrow, convert, view_of_hasValue h]

/-- A single is a double with the same sign and value, and with a significand of full width unless
it is zero. -/
theorem hasValue_widen {x : Single} {negative : Bool} {s : Nat} {e : Int}
    (h : x.HasValue negative s e) :
    ∃ k : Nat, x.widen.HasValue negative (s * Nat.pow 2 k) (e - k) := by
  obtain ⟨hsign, hplace, hwidth, hfull, hmagnitude, hfinite⟩ := id h
  have hsingle : BinaryFormat.single.minExponent = -149 := rfl
  have hdouble : BinaryFormat.double.minExponent = -1074 := rfl
  have hsingle_bits : Nat.pow 2 BinaryFormat.single.fractionBits = 0x800000 := rfl
  have hdouble_bits : Nat.pow 2 BinaryFormat.double.fractionBits = 0x10000000000000 := rfl
  have hsingle_infinite : BinaryFormat.single.infiniteMagnitude = 0x7f800000 := rfl
  have hdouble_infinite : BinaryFormat.double.infiniteMagnitude = 0x7ff0000000000000 := rfl
  rw [hsingle] at hplace hfull hmagnitude
  rw [hsingle_bits] at hwidth hfull hmagnitude
  rw [hsingle_infinite, hmagnitude] at hfinite
  -- Of the bound on the magnitude only what it says about the exponent is needed.
  have hsmall : e < 106 := by omega
  clear hfinite hmagnitude
  by_cases hs : s = 0
  · subst hs
    obtain ⟨k, hk⟩ : ∃ k : Nat, e - k = BinaryFormat.double.minExponent := ⟨925, by omega⟩
    refine ⟨k, ?_⟩
    rw [widen_of_hasValue h, hk, ofScaled, ofRatio, Nat.zero_mul, Nat.zero_mul, if_pos rfl]
    exact hasValue_ofMagnitude (f := .double) (s := 0) negative (Int.le_refl _) (by decide)
      (.inl rfl) (by decide)
  · have hlog : s.log2 < 24 := (Nat.log2_lt hs).mpr hwidth
    obtain ⟨k, hk⟩ : ∃ k : Nat, s.log2 + k = 52 := ⟨52 - s.log2, by omega⟩
    have hscaled : s * Nat.pow 2 k ≠ 0 := Nat.mul_ne_zero hs (Nat.ne_of_gt (pow_two_pos k))
    have hlog_scaled : (s * Nat.pow 2 k).log2 = 52 := by rw [log2_mul_pow_two hs, hk]
    obtain ⟨hlower, hupper⟩ := (Nat.log2_eq_iff hscaled).mp hlog_scaled
    have hp : max BinaryFormat.double.minExponent
        (s.log2 + e - BinaryFormat.double.fractionBits) = e - k := by
      have hbits : BinaryFormat.double.fractionBits = 52 := rfl
      omega
    have ht : s * Nat.pow 2 (e - (e - k)).toNat =
        s * Nat.pow 2 k * Nat.pow 2 ((e - k) - e).toNat := by
      have hdown : ((e - k) - e).toNat = 0 := by omega
      have hup : (e - (e - k)).toNat = k := by omega
      rw [hdown, hup, Nat.mul_assoc, ← pow_two_add, Nat.add_zero]
    have hroom : ((e - k) - BinaryFormat.double.minExponent).toNat *
        Nat.pow 2 BinaryFormat.double.fractionBits + s * Nat.pow 2 k <
          BinaryFormat.double.infiniteMagnitude := by
      have hexponent : ((e - k) - BinaryFormat.double.minExponent).toNat < 2000 := by omega
      rw [hdouble_bits, hdouble_infinite]
      generalize ((e - k) - BinaryFormat.double.minExponent).toNat = n at hexponent
      generalize s * Nat.pow 2 k = significand at hupper
      omega
    have hwide := hasValue_ofMagnitude (f := .double) negative (s := s * Nat.pow 2 k) (e := e - k)
      (by omega) (by rw [hdouble_bits]; omega) (.inr (by rw [hdouble_bits]; omega)) hroom
    refine ⟨k, ?_⟩
    rw [widen_of_hasValue h, ofScaled_of_exact negative hs hp ht,
      Nat.min_eq_left (Nat.le_of_lt hroom)]
    exact hwide

theorem exists_hasValue {x : Floating f} (h : x.isFinite = true) :
    ∃ negative s e, x.HasValue negative s e := by
  have hfinite : x.magnitude < f.infiniteMagnitude := of_decide_eq_true h
  cases hview : x.view with
  | finite negative s e => exact ⟨negative, s, e, hasValue_of_view hview⟩
  | nan =>
    simp only [view] at hview
    split at hview
    · omega
    · split at hview
      · cases hview
      · split at hview <;> cases hview
  | infinite negative =>
    simp only [view] at hview
    split at hview
    · cases hview
    · split at hview
      · omega
      · split at hview <;> cases hview

/-- **A single that is widened and narrowed again is the same single.** -/
theorem narrow_widen {x : Single} (h : x.isFinite = true) : x.widen.narrow = x := by
  obtain ⟨negative, s, e, hx⟩ := exists_hasValue h
  obtain ⟨k, hwide⟩ := hasValue_widen hx
  rw [narrow_of_hasValue hwide, ofScaled_of_hasValue hx]

theorem isFinite_widen (x : Single) : x.widen.isFinite = x.isFinite := by
  cases h : x.isFinite with
  | true =>
    obtain ⟨negative, s, e, hx⟩ := exists_hasValue h
    obtain ⟨k, hwide⟩ := hasValue_widen hx
    exact decide_eq_true hwide.finite
  | false =>
    have hinfinite : ¬ x.magnitude < BinaryFormat.single.infiniteMagnitude := of_decide_eq_false h
    cases hview : x.view with
    | finite negative s e => exact absurd (hasValue_of_view hview).finite hinfinite
    | nan =>
      rw [widen, convert, hview]
      rfl
    | infinite negative =>
      rw [widen, convert, hview]
      cases negative <;> rfl

/-- A double that some single equals is the one that narrowing finds. -/
theorem exists_widen_eq_iff {x : Double} (h : x.isFinite = true) :
    (∃ y : Single, y.widen = x) ↔ x.narrow.widen = x := by
  constructor
  · rintro ⟨y, rfl⟩
    rw [isFinite_widen] at h
    rw [narrow_widen h]
  · intro hx
    exact ⟨x.narrow, hx⟩

end Floating

end SqlBuilder
