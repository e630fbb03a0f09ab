import SqlBuilder.Proofs.BinaryNumbers
import SqlBuilder.Value.Json

/-!
# Values that go through JSON

JSON does not keep the kind of a value, and reading takes the first kind that fits.  That is meant
not to matter: the value read has the same JSON form.  For whole numbers it holds because an integer
is taken only where the number is in its range.  But a single is taken for every other number, in
range or not, so the kind behind it, the double, is never reached.  A double comes back as the
nearest single, and a whole number past the signed range comes back as a real one.

`toJson_ofJson_iff` says exactly which JSON survives being read, and `toJson_ofJson_present` which
values do.
-/
namespace SqlBuilder

/-- JSON that reading keeps: not a number between the singles, and not a whole number past the
signed range of 64 bits. -/
def Json.IsKept : Json → Prop
  | .number (.whole n) => n.val < 0x8000000000000000
  | .number (.real x _) => ∃ y : Single, y.widen = x
  | _ => True

theorem Whole.eq_of_val {m n : Whole} (h : m.val = n.val) : m = n := by
  cases m
  cases n
  simp only [mk.injEq]
  exact h

namespace Value

/-! ## Reading JSON -/

theorem eq_of_byte? {json : Json} {b : UInt8} (h : byte? json = some b) :
    json = .whole (.ofByte b) := by
  unfold byte? at h
  split at h
  · next n =>
    split at h
    · next hrange =>
      cases h
      have hval : n = Whole.ofByte (UInt8.ofNat n.val.toNat) := by
        have hbyte : (UInt8.ofNat n.val.toNat).toNat = n.val.toNat :=
          UInt8.toNat_ofNat_of_lt' (by show n.val.toNat < 256; omega)
        refine Whole.eq_of_val ?_
        show n.val = ((UInt8.ofNat n.val.toNat).toNat : Int)
        omega
      exact congrArg (fun m => Json.number (.whole m)) hval
    · cases h
  · cases h

theorem eq_of_mapM_byte? {items : List Json} {octets : List UInt8}
    (h : items.mapM byte? = some octets) : items = octets.map fun b => .whole (.ofByte b) := by
  induction items generalizing octets with
  | nil =>
    cases h
    rfl
  | cons item items ih =>
    rw [List.mapM_cons] at h
    obtain ⟨b, hb, h⟩ := Option.bind_eq_some_iff.mp h
    obtain ⟨rest, hrest, h⟩ := Option.bind_eq_some_iff.mp h
    cases h
    rw [eq_of_byte? hb, ih hrest]
    rfl

theorem ofDouble_ne_whole (x : Double) (n : Whole) : Json.ofDouble x ≠ .number (.whole n) := by
  intro h
  unfold Json.ofDouble at h
  split at h <;> cases h

theorem toJson_ofJson_whole_iff (n : Whole) :
    (ofJson (.number (.whole n))).toJson = .number (.whole n) ↔ n.val < 0x8000000000000000 := by
  have hlower := n.lower
  by_cases hsmall : -0x80000000 ≤ n.val ∧ n.val < 0x80000000
  · have hread : ofJson (.number (.whole n)) = .int32 (Int32.ofInt n.val) := if_pos hsmall
    have hval : Whole.ofInt32 (Int32.ofInt n.val) = n :=
      Whole.eq_of_val (Int32.toInt_ofInt_of_le (by omega) (by omega))
    rw [hread, toJson, hval]
    exact iff_of_true rfl (by omega)
  · by_cases hlarge : n.val < 0x8000000000000000
    · have hread : ofJson (.number (.whole n)) = .int64 (Int64.ofInt n.val) :=
        (if_neg hsmall).trans (if_pos hlarge)
      have hval : Whole.ofInt64 (Int64.ofInt n.val) = n :=
        Whole.eq_of_val (Int64.toInt_ofInt_of_le (by omega) (by omega))
      rw [hread, toJson, hval]
      exact iff_of_true rfl hlarge
    · have hread : ofJson (.number (.whole n)) = .single (Floating.ofInt .single n.val) :=
        (if_neg hsmall).trans (if_neg hlarge)
      rw [hread]
      exact iff_of_false (ofDouble_ne_whole _ n) hlarge

theorem toJson_ofJson_real_iff (x : Double) (hx : x.isFinite = true) :
    (ofJson (.number (.real x hx))).toJson = .number (.real x hx) ↔
      ∃ y : Single, y.widen = x := by
  rw [Floating.exists_widen_eq_iff hx]
  show Json.ofDouble x.narrow.widen = .number (.real x hx) ↔ _
  constructor
  · intro h
    unfold Json.ofDouble at h
    split at h
    · injection h with h
      injection h
    · cases h
  · intro h
    rw [h, Json.ofDouble, dif_pos hx]

/-- Reading JSON as a value gives a value of the same JSON form just for JSON that is kept. -/
theorem toJson_ofJson_iff (json : Json) : (ofJson json).toJson = json ↔ json.IsKept := by
  cases json with
  | null => exact iff_of_true rfl trivial
  | bool b => exact iff_of_true rfl trivial
  | string s => exact iff_of_true rfl trivial
  | object members => exact iff_of_true rfl trivial
  | number n =>
    cases n with
    | whole n => exact toJson_ofJson_whole_iff n
    | real x hx => exact toJson_ofJson_real_iff x hx
  | array items =>
    refine iff_of_true ?_ trivial
    cases h : items.mapM byte? with
    | none =>
      have hread : ofJson (.array items) = .json (.array items) := by simp only [ofJson, h]
      rw [hread]
      rfl
    | some octets =>
      have hread : ofJson (.array items) = .bytes octets := by simp only [ofJson, h]
      rw [hread]
      exact congrArg Json.array (eq_of_mapM_byte? h).symm

/-! ## Values -/

/-- The JSON that a value is presented as is its JSON form. -/
theorem present_toJson (v : Value) : v.present .toJson = v.toJson := by
  cases v <;> rfl

/-- Values whose JSON form is kept: of the numbers that are no integers only those that some single
equals, and of the whole numbers only those in the signed range of 64 bits. -/
def KeepsMeaning : Value → Prop
  | double x => x.isFinite = true → ∃ y : Single, y.widen = x
  | json held => held.IsKept
  | _ => True

theorem isKept_ofDouble_iff (x : Double) :
    (Json.ofDouble x).IsKept ↔ (x.isFinite = true → ∃ y : Single, y.widen = x) := by
  by_cases hx : x.isFinite = true
  · rw [Json.ofDouble, dif_pos hx]
    exact ⟨fun h _ => h, fun h => h hx⟩
  · rw [Json.ofDouble, dif_neg hx]
    exact iff_of_true trivial fun h => absurd h hx

theorem isKept_toJson_iff (v : Value) : v.toJson.IsKept ↔ v.KeepsMeaning := by
  cases v with
  | null => exact iff_of_true trivial trivial
  | bool b => exact iff_of_true trivial trivial
  | text s => exact iff_of_true trivial trivial
  | bytes octets => exact iff_of_true trivial trivial
  | int32 n =>
    refine iff_of_true ?_ trivial
    show n.toInt < 0x8000000000000000
    have := n.toInt_lt
    omega
  | int64 n => exact iff_of_true n.toInt_lt trivial
  | single x =>
    refine iff_of_true ?_ trivial
    exact (isKept_ofDouble_iff x.widen).mpr fun _ => ⟨x, rfl⟩
  | double x => exact isKept_ofDouble_iff x
  | json held => exact Iff.rfl

/-- **A value that is written as JSON and read again** has the same JSON form just if its meaning is
kept.  So all values do but doubles, and real numbers in JSON, between the singles, and whole
numbers in JSON past the signed range. -/
theorem toJson_ofJson_present (v : Value) :
    (ofJson (v.present .toJson)).toJson = v.toJson ↔ v.KeepsMeaning := by
  rw [present_toJson, toJson_ofJson_iff, isKept_toJson_iff]

/-- One tenth as a double lies between two singles. -/
theorem not_all_values_keep_meaning :
    ¬ ∀ v : Value, (ofJson (v.present .toJson)).toJson = v.toJson := by
  intro h
  have htenth := h (.double ⟨0x3fb999999999999a⟩)
  rw [present_toJson, toJson, Json.ofDouble, dif_pos (by decide),
    toJson_ofJson_real_iff, Floating.exists_widen_eq_iff (by decide)] at htenth
  exact absurd htenth (by decide +kernel)

end Value

end SqlBuilder
