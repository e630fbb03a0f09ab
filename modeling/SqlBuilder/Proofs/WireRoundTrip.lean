import SqlBuilder.Proofs.RowDecoding
import SqlBuilder.Value.Json

/-!
# Values that go through the driver

A value is bound as an argument of the driver's own kinds, and a column is read by trying one typed
read after the other.  The two sides were not made for each other.  Null and a single are bound as
kinds that no read accepts, since the driver never says of a column that it is empty and reads no
number of 32 bits.  Every other value comes back, an integer of 32 bits as one of 64, and with it
every row that holds none of the two (`toRow_ofBound`).  One null in a row loses the whole row: what
is reported is the first column that cannot be read.
-/
namespace SqlBuilder

/-! ## One value -/

namespace Wire

/-- Whether some typed read accepts a kind. -/
def isReadable : Wire → Bool
  | null => false
  | real _ => false
  | _ => true

theorem toValue?_eq_none_iff (w : Wire) : w.toValue? = none ↔ w.isReadable = false := by
  cases w <;> simp [toValue?, toInt64?, toDouble?, toText?, toBool?, toBytes?, isReadable]

end Wire

namespace Value

/-- Whether a value can be read back once it is bound. -/
def isReadable (v : Value) : Bool := v.toWire.isReadable

def isJson : Value → Bool
  | json _ => true
  | _ => false

/-- The value that a column holds whose argument was a value. -/
def readBack? (v : Value) : Option Value := v.toWire.toValue?

theorem exists_readBack? {v : Value} (h : v.isReadable = true) :
    ∃ read, v.readBack? = some read := by
  cases hread : v.readBack? with
  | some read => exact ⟨read, rfl⟩
  | none =>
    have hnot := (Wire.toValue?_eq_none_iff v.toWire).mp hread
    exact absurd h (Bool.eq_false_iff.mp hnot)

/-- Reading back may change the kind of a value and never what it says in JSON. -/
theorem toJson_of_readBack? {v read : Value} (hjson : v.isJson = false)
    (h : v.readBack? = some read) : read.toJson = v.toJson := by
  cases v with
  | null => cases h
  | single x => cases h
  | json held => cases hjson
  | int32 n =>
    cases h
    show Json.whole (.ofInt64 n.toInt64) = Json.whole (.ofInt32 n)
    have hval : Whole.ofInt64 n.toInt64 = Whole.ofInt32 n := by
      simp only [Whole.ofInt64, Whole.ofInt32, Int32.toInt_toInt64]
    rw [hval]
  | bool b => cases h; rfl
  | int64 n => cases h; rfl
  | double x => cases h; rfl
  | text s => cases h; rfl
  | bytes octets => cases h; rfl

theorem exists_mapM_readBack? {values : List Value} (h : ∀ v ∈ values, v.isReadable = true) :
    ∃ read, values.mapM readBack? = some read := by
  induction values with
  | nil => exact ⟨[], rfl⟩
  | cons v values ih =>
    obtain ⟨first, hfirst⟩ := exists_readBack? (h v List.mem_cons_self)
    obtain ⟨rest, hrest⟩ := ih fun u hu => h u (List.mem_cons_of_mem v hu)
    refine ⟨first :: rest, ?_⟩
    rw [List.mapM_cons, hfirst, hrest]
    rfl

theorem map_toJson_of_mapM_readBack? {values read : List Value}
    (hjson : ∀ v ∈ values, v.isJson = false) (h : values.mapM readBack? = some read) :
    read.map toJson = values.map toJson := by
  induction values generalizing read with
  | nil =>
    cases h
    rfl
  | cons v values ih =>
    rw [List.mapM_cons] at h
    obtain ⟨first, hfirst, h⟩ := Option.bind_eq_some_iff.mp h
    obtain ⟨rest, hrest, h⟩ := Option.bind_eq_some_iff.mp h
    cases h
    have hv := toJson_of_readBack? (hjson v List.mem_cons_self) hfirst
    have hvs := ih (fun u hu => hjson u (List.mem_cons_of_mem v hu)) hrest
    rw [List.map_cons, List.map_cons, hv, hvs]

end Value

/-! ## Rows of bound values -/

namespace WireRow

/-- The row that holds, under one name each, the arguments that values were bound as. -/
def ofBound (names : List String) (values : List Value) : WireRow :=
  ⟨names.zipIdx, values.map Value.toWire⟩

variable (columns : List (String × Nat))

theorem read_bound (before : List Value) (v : Value) (after : List Value) :
    (WireRow.mk columns ((before ++ v :: after).map Value.toWire)).read before.length =
      match v.readBack? with
      | some read => .ok read
      | none => .error (.database (.unreadable before.length v.toWire.typeName)) := by
  have hwire : ((before ++ v :: after).map Value.toWire)[before.length]? = some v.toWire := by
    simp
  rw [read, hwire]
  rfl

/-- Columns that stand next to each other are read into the values that come back. -/
theorem mapM_readColumn_bound (before : List Value) {values : List Value} (after : List Value)
    {names : List String} {read : List Value} (hlength : names.length = values.length)
    (hread : values.mapM Value.readBack? = some read) :
    (names.zipIdx before.length).mapM
        (readColumn ⟨columns, (before ++ values ++ after).map Value.toWire⟩) =
      .ok (names.zip read) := by
  induction values generalizing before names read with
  | nil =>
    rw [List.eq_nil_of_length_eq_zero hlength]
    rfl
  | cons v values ih =>
    cases names with
    | nil => simp at hlength
    | cons name names =>
      rw [List.mapM_cons] at hread
      obtain ⟨first, hfirst, hread⟩ := Option.bind_eq_some_iff.mp hread
      obtain ⟨rest, hrest, hread⟩ := Option.bind_eq_some_iff.mp hread
      cases hread
      have htail := ih (before ++ [v]) (Nat.succ.inj hlength) hrest
      rw [List.length_append, List.length_singleton, List.append_assoc, List.append_assoc,
        List.singleton_append] at htail
      have hhead := read_bound columns before v (values ++ after)
      rw [hfirst] at hhead
      rw [List.zipIdx_cons, List.mapM_cons, List.append_assoc, List.cons_append, readColumn, hhead,
        htail]
      rfl

theorem toRow_of_readable {names : List String} {values read : List Value}
    (hlength : names.length = values.length) (hread : values.mapM Value.readBack? = some read) :
    (ofBound names values).toRow = .ok (.ofList (names.zip read)) := by
  have hcolumns := mapM_readColumn_bound names.zipIdx [] [] hlength hread
  rw [List.nil_append, List.append_nil] at hcolumns
  have hall : (ofBound names values).columns.mapM (ofBound names values).readColumn =
      .ok (names.zip read) := hcolumns
  rw [toRow_eq, hall]
  rfl

theorem toRow_of_unreadable {names : List String} {before : List Value} {v : Value}
    {after : List Value} (hlength : names.length = (before ++ v :: after).length)
    (hbefore : ∀ u ∈ before, u.isReadable = true) (hv : v.isReadable = false) :
    (ofBound names (before ++ v :: after)).toRow =
      .error (.database (.unreadable before.length v.toWire.typeName)) := by
  obtain ⟨read, hread⟩ := Value.exists_mapM_readBack? hbefore
  have hindex : before.length < names.length := by
    rw [hlength, List.length_append, List.length_cons]
    omega
  have htake : (names.take before.length).length = before.length := by
    rw [List.length_take]
    omega
  -- The columns before the unreadable one, that one, and those that are never looked at.
  have hnames : names.zipIdx = (names.take before.length).zipIdx ++
      (names[before.length], before.length) ::
        (names.drop (before.length + 1)).zipIdx (before.length + 1) := by
    have hzip := @List.zipIdx_append _ (names.take before.length) (names.drop before.length) 0
    rw [List.take_append_drop, htake, List.drop_eq_getElem_cons hindex, List.zipIdx_cons,
      Nat.zero_add] at hzip
    exact hzip
  have hcolumns : (names.take before.length).zipIdx.mapM
      (ofBound names (before ++ v :: after)).readColumn =
        .ok ((names.take before.length).zip read) :=
    mapM_readColumn_bound names.zipIdx [] (v :: after) htake hread
  have hfails : (ofBound names (before ++ v :: after)).read before.length =
      .error (.database (.unreadable before.length v.toWire.typeName)) := by
    rw [ofBound, read_bound, Value.readBack?, (Wire.toValue?_eq_none_iff v.toWire).mpr hv]
  obtain ⟨cause, hrefused, hcause⟩ := read_eq_error_iff.mp hfails
  refine toRow_eq_error_iff.mpr ⟨_, _, _, _, cause, hnames, fun column hcolumn => ?_, hrefused, hcause⟩
  have hreads := exists_mapM_eq_ok_iff.mp ⟨_, hcolumns⟩ column hcolumn
  exact exists_read_iff_not_refuses.mp (exists_readColumn_iff.mp hreads)

/-- **What is bound reads back the same, but for null and singles.**  A row of arguments is read
with its columns in order and the JSON form of every value kept if each of the values is readable;
otherwise reading it fails at the first that is not. -/
theorem toRow_ofBound {names : List String} {values : List Value} (hnames : names.Nodup)
    (hlength : names.length = values.length) (hjson : ∀ v ∈ values, v.isJson = false) :
    ((∀ v ∈ values, v.isReadable = true) →
        ∃ row, (ofBound names values).toRow = .ok row ∧ row.keys = names ∧
          row.entries.map (fun entry => entry.2.toJson) = values.map Value.toJson) ∧
      ∀ before v after, values = before ++ v :: after → (∀ u ∈ before, u.isReadable = true) →
        v.isReadable = false →
          (ofBound names values).toRow =
            .error (.database (.unreadable before.length v.toWire.typeName)) := by
  constructor
  · intro hreadable
    obtain ⟨read, hread⟩ := Value.exists_mapM_readBack? hreadable
    have hkept := Value.map_toJson_of_mapM_readBack? hjson hread
    have hsame : names.length = read.length := by
      have hlengths := congrArg List.length hkept
      rw [List.length_map, List.length_map] at hlengths
      rw [hlength, hlengths]
    have hfirst : (names.zip read).map Prod.fst = names :=
      List.map_fst_zip (Nat.le_of_eq hsame)
    have hsecond : (names.zip read).map Prod.snd = read :=
      List.map_snd_zip (Nat.le_of_eq hsame.symm)
    have hentries : (Ordered.ofList (names.zip read)).entries = names.zip read :=
      Ordered.entries_ofList (hfirst.symm ▸ hnames)
    refine ⟨.ofList (names.zip read), toRow_of_readable hlength hread, ?_, ?_⟩
    · rw [Ordered.keys, hentries, hfirst]
    · rw [hentries, ← hkept]
      conv => rhs; rw [← hsecond, List.map_map]
      rfl
  · rintro before v after rfl hbefore hv
    exact toRow_of_unreadable hlength hbefore hv

/-- An integer of 32 bits comes back as one of 64, in the same row. -/
theorem row_of_integer_and_text :
    ["id", "name"].Nodup ∧ ["id", "name"].length = [Value.int32 7, .text "Ada"].length ∧
      (∀ v ∈ [Value.int32 7, .text "Ada"], v.isJson = false) ∧
      ∃ row, (ofBound ["id", "name"] [.int32 7, .text "Ada"]).toRow = .ok row ∧
        row.keys = ["id", "name"] ∧
        row.entries.map (fun entry => entry.2.toJson) =
          [Value.int32 7, .text "Ada"].map Value.toJson := by
  have hnames : ["id", "name"].Nodup := by decide
  have hjson : ∀ v ∈ [Value.int32 7, .text "Ada"], v.isJson = false := by
    intro v hv
    simp only [List.mem_cons, List.not_mem_nil, or_false] at hv
    rcases hv with rfl | rfl <;> rfl
  have hreadable : ∀ v ∈ [Value.int32 7, .text "Ada"], v.isReadable = true := by
    intro v hv
    simp only [List.mem_cons, List.not_mem_nil, or_false] at hv
    rcases hv with rfl | rfl <;> rfl
  exact ⟨hnames, rfl, hjson, (toRow_ofBound hnames rfl hjson).1 hreadable⟩

/-- A null that was bound does not come back, and takes its row with it. -/
theorem not_all_bound_rows_read :
    ¬ ∀ (names : List String) (values : List Value), names.Nodup →
      names.length = values.length → (∀ v ∈ values, v.isJson = false) →
        ∃ row, (ofBound names values).toRow = .ok row ∧ row.keys = names ∧
          row.entries.map (fun entry => entry.2.toJson) = values.map Value.toJson := by
  intro h
  have hjson : ∀ v ∈ [Value.null], v.isJson = false := by
    intro v hv
    rw [List.mem_singleton.mp hv]
    rfl
  obtain ⟨row, hrow, -⟩ := h ["deleted_at"] [.null] (by decide) rfl hjson
  have hfails : (ofBound ["deleted_at"] [.null]).toRow =
      .error (.database (.unreadable 0 "NULL")) := rfl
  rw [hfails] at hrow
  cases hrow

end WireRow

end SqlBuilder
