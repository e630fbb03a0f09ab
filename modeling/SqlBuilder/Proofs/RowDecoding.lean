import SqlBuilder.Connection.Rows
import SqlBuilder.Proofs.FirstFailures
import SqlBuilder.Proofs.OrderedMaps

/-!
# Rows of the driver, read whole or not at all

A row of the driver says for each of its columns at which index the value is, and neither the indices
nor the names need be distinct: a join delivers columns of one name from several tables.  Whether such
a row is read depends on each of its columns by itself, and if one of them cannot be read, nothing is
(`toRow_all_or_nothing`).  The error is then that of the first, in the order of the columns.

What can be read is said here without the reads that are tried one after the other.  `Wire.ReadsAs`
lists the kinds that some read accepts, with the values that they give, and `WireRow.Refuses` the
three ways in which an index is refused.
-/
namespace SqlBuilder

/-! ## One column -/

/-- The kinds that are read, and as what. -/
inductive Wire.ReadsAs : Wire → Value → Prop
  | bool (b : Bool) : ReadsAs (.bool b) (.bool b)
  | smallInt (n : Int16) : ReadsAs (.smallInt n) (.int64 n.toInt64)
  | integer (n : Int32) : ReadsAs (.integer n) (.int64 n.toInt64)
  | bigInt (n : Int64) : ReadsAs (.bigInt n) (.int64 n)
  | double (x : Double) : ReadsAs (.double x) (.double x)
  | text (s : String) : ReadsAs (.text s) (.text s)
  | blob (octets : List UInt8) : ReadsAs (.blob octets) (.bytes octets)

/-- At most one of the reads accepts a kind, so that their order does not matter. -/
theorem Wire.toValue?_eq_some_iff {w : Wire} {v : Value} : w.toValue? = some v ↔ w.ReadsAs v := by
  constructor
  · intro h
    cases w with
    | null | real x => cases h
    | bool b => cases h; exact .bool b
    | smallInt n => cases h; exact .smallInt n
    | integer n => cases h; exact .integer n
    | bigInt n => cases h; exact .bigInt n
    | double x => cases h; exact .double x
    | text s => cases h; exact .text s
    | blob octets => cases h; exact .blob octets
  · rintro (b | n | n | n | x | s | octets) <;> rfl

namespace WireRow

variable {row : WireRow} {index : Nat}

/-- Why there is nothing to read at an index. -/
inductive Refuses (row : WireRow) (index : Nat) : DriverError → Prop
  | outOfBounds (h : row.values.length ≤ index) :
      Refuses row index (.columnOutOfBounds index row.values.length)
  | null (h : row.values[index]? = some .null) : Refuses row index (.unreadable index "NULL")
  | real {x : Single} (h : row.values[index]? = some (.real x)) :
      Refuses row index (.unreadable index "REAL")

theorem read_of_readsAs {w : Wire} {v : Value} (hw : row.values[index]? = some w)
    (h : w.ReadsAs v) : row.read index = .ok v := by
  rw [read, hw]
  dsimp only
  rw [Wire.toValue?_eq_some_iff.mpr h]

theorem read_of_refuses {cause : DriverError} (h : row.Refuses index cause) :
    row.read index = .error (.database cause) := by
  rw [read]
  rcases h with h | h | h
  · rw [List.getElem?_eq_none h]
  · rw [h]
    rfl
  · rw [h]
    rfl

theorem reads_or_refuses (row : WireRow) (index : Nat) :
    (∃ w v, row.values[index]? = some w ∧ w.ReadsAs v) ∨ ∃ cause, row.Refuses index cause := by
  cases hw : row.values[index]? with
  | none => exact .inr ⟨_, .outOfBounds (List.getElem?_eq_none_iff.mp hw)⟩
  | some w =>
    cases w with
    | null => exact .inr ⟨_, .null hw⟩
    | real x => exact .inr ⟨_, .real hw⟩
    | bool b => exact .inl ⟨_, _, rfl, .bool b⟩
    | smallInt n => exact .inl ⟨_, _, rfl, .smallInt n⟩
    | integer n => exact .inl ⟨_, _, rfl, .integer n⟩
    | bigInt n => exact .inl ⟨_, _, rfl, .bigInt n⟩
    | double x => exact .inl ⟨_, _, rfl, .double x⟩
    | text s => exact .inl ⟨_, _, rfl, .text s⟩
    | blob octets => exact .inl ⟨_, _, rfl, .blob octets⟩

theorem read_eq_ok_iff {v : Value} :
    row.read index = .ok v ↔ ∃ w, row.values[index]? = some w ∧ w.ReadsAs v := by
  refine ⟨fun h => ?_, fun ⟨w, hw, hreads⟩ => read_of_readsAs hw hreads⟩
  rcases row.reads_or_refuses index with ⟨w, u, hw, hreads⟩ | ⟨cause, hrefuses⟩
  · rw [read_of_readsAs hw hreads] at h
    cases h
    exact ⟨w, hw, hreads⟩
  · rw [read_of_refuses hrefuses] at h
    cases h

theorem read_eq_error_iff {e : Error} :
    row.read index = .error e ↔ ∃ cause, row.Refuses index cause ∧ e = .database cause := by
  refine ⟨fun h => ?_, fun ⟨cause, hrefuses, he⟩ => he ▸ read_of_refuses hrefuses⟩
  rcases row.reads_or_refuses index with ⟨w, u, hw, hreads⟩ | ⟨cause, hrefuses⟩
  · rw [read_of_readsAs hw hreads] at h
    cases h
  · rw [read_of_refuses hrefuses] at h
    exact ⟨cause, hrefuses, (Except.error.inj h).symm⟩

theorem exists_read_iff_not_refuses :
    (∃ v, row.read index = .ok v) ↔ ∀ cause, ¬ row.Refuses index cause := by
  constructor
  · rintro ⟨v, hv⟩ cause hrefuses
    rw [read_of_refuses hrefuses] at hv
    cases hv
  · intro h
    rcases row.reads_or_refuses index with ⟨w, v, hw, hreads⟩ | ⟨cause, hrefuses⟩
    · exact ⟨v, read_of_readsAs hw hreads⟩
    · exact absurd hrefuses (h cause)

/-- What is there and is neither null nor a number of 32 bits is read. -/
theorem exists_read_iff :
    (∃ v, row.read index = .ok v) ↔
      index < row.values.length ∧ row.values[index]? ≠ some .null ∧
        ∀ x, row.values[index]? ≠ some (.real x) := by
  rw [exists_read_iff_not_refuses]
  constructor
  · intro h
    exact ⟨Nat.lt_of_not_le fun hle => h _ (.outOfBounds hle), fun hnull => h _ (.null hnull),
      fun x hreal => h _ (.real hreal)⟩
  · rintro ⟨hbounds, hnull, hreal⟩ cause (h | h | h)
    · exact absurd hbounds (Nat.not_lt.mpr h)
    · exact hnull h
    · exact hreal _ h

/-- The name of a column with what it holds. -/
def readColumn (row : WireRow) (column : String × Nat) : Except Error (String × Value) :=
  (row.read column.2).map fun value => (column.1, value)

theorem readColumn_eq_ok_iff {column : String × Nat} {pair : String × Value} :
    row.readColumn column = .ok pair ↔ row.read column.2 = .ok pair.2 ∧ column.1 = pair.1 := by
  rw [readColumn, except_map_eq_ok_iff]
  constructor
  · rintro ⟨v, hv, rfl⟩
    exact ⟨hv, rfl⟩
  · rintro ⟨hv, hname⟩
    exact ⟨pair.2, hv, Prod.ext hname rfl⟩

theorem exists_readColumn_iff {column : String × Nat} :
    (∃ pair, row.readColumn column = .ok pair) ↔ ∃ v, row.read column.2 = .ok v := by
  constructor
  · rintro ⟨pair, h⟩
    exact ⟨pair.2, (readColumn_eq_ok_iff.mp h).1⟩
  · rintro ⟨v, hv⟩
    exact ⟨(column.1, v), readColumn_eq_ok_iff.mpr ⟨hv, rfl⟩⟩

/-! ## All columns -/

theorem readColumns_eq (row : WireRow) (read : Row) (columns : List (String × Nat)) :
    row.readColumns read columns = (columns.mapM row.readColumn).map read.insertAll := by
  induction columns generalizing read with
  | nil => rfl
  | cons column rest ih =>
    obtain ⟨name, index⟩ := column
    rw [readColumns, List.mapM_cons, readColumn]
    cases row.read index with
    | error e => rfl
    | ok value =>
      show row.readColumns (read.insert name value) rest = _
      rw [ih]
      cases rest.mapM row.readColumn with
      | error e => rfl
      | ok pairs => rfl

/-- Reading a row is reading its columns one after the other, and then writing them in order. -/
theorem toRow_eq (row : WireRow) :
    row.toRow = (row.columns.mapM row.readColumn).map Ordered.ofList :=
  readColumns_eq row .empty row.columns

theorem toRow_eq_ok_iff {read : Row} :
    row.toRow = .ok read ↔
      ∃ pairs, row.columns.mapM row.readColumn = .ok pairs ∧ Ordered.ofList pairs = read := by
  rw [toRow_eq, except_map_eq_ok_iff]

/-- The names that were read are those of the columns. -/
theorem map_fst_of_mapM_readColumn {columns : List (String × Nat)} {pairs : List (String × Value)}
    (h : columns.mapM row.readColumn = .ok pairs) : pairs.map Prod.fst = columns.map Prod.fst := by
  induction mapM_eq_ok_iff.mp h with
  | nil => rfl
  | @cons column pair columns pairs hcolumn hcolumns ih =>
    rw [List.map_cons, List.map_cons, (readColumn_eq_ok_iff.mp hcolumn).2,
      ih (mapM_eq_ok_iff.mpr hcolumns)]

/-- Under a name stands what the last column with that name holds. -/
theorem get?_of_last_column {read : Row} (h : row.toRow = .ok read)
    {before after : List (String × Nat)} {name : String}
    (hcolumns : row.columns = before ++ (name, index) :: after)
    (hlast : name ∉ after.map Prod.fst) :
    ∃ w v, row.values[index]? = some w ∧ w.ReadsAs v ∧ read.get? name = some v := by
  obtain ⟨pairs, hpairs, rfl⟩ := toRow_eq_ok_iff.mp h
  rw [hcolumns] at hpairs
  obtain ⟨first, ⟨_, v⟩, rest, -, hcolumn, hrest, rfl⟩ := exists_of_mapM_append_cons hpairs
  obtain ⟨hread, rfl⟩ := readColumn_eq_ok_iff.mp hcolumn
  obtain ⟨w, hw, hreads⟩ := read_eq_ok_iff.mp hread
  refine ⟨w, v, hw, hreads, Ordered.get?_ofList_of_last first _ v ?_⟩
  rw [map_fst_of_mapM_readColumn hrest]
  exact hlast

/-- The error is that of the first column that is refused. -/
theorem toRow_eq_error_iff {e : Error} :
    row.toRow = .error e ↔ ∃ before name index after cause,
      row.columns = before ++ (name, index) :: after ∧
      (∀ column ∈ before, ∀ cause, ¬ row.Refuses column.2 cause) ∧
      row.Refuses index cause ∧ e = .database cause := by
  -- A column fails as its index does, whatever its name.
  have hfailing : ∀ column, row.readColumn column = .error e ↔
      ∃ cause, row.Refuses column.2 cause ∧ e = .database cause := by
    intro column
    rw [readColumn, except_map_eq_error_iff, read_eq_error_iff]
  simp only [toRow_eq, except_map_eq_error_iff, mapM_eq_error_iff, exists_readColumn_iff,
    exists_read_iff_not_refuses, hfailing]
  constructor
  · rintro ⟨before, ⟨name, index⟩, after, hcolumns, hbefore, cause, hrefuses, he⟩
    exact ⟨before, name, index, after, cause, hcolumns, hbefore, hrefuses, he⟩
  · rintro ⟨before, name, index, after, cause, hcolumns, hbefore, hrefuses, he⟩
    exact ⟨before, (name, index), after, hcolumns, hbefore, cause, hrefuses, he⟩

/-- **A row is read whole or not at all.**  It is read exactly if every column's index is in the row
and the value there is neither null nor a number of 32 bits.  What is read has the names of the
columns, in the order in which each comes first, and holds under each of them the value of the last
column with that name; so no column is lost exactly if the names are distinct.  Otherwise the error is
the driver's, and says why the first column that cannot be read is refused. -/
theorem toRow_all_or_nothing (row : WireRow) :
    ((∃ read, row.toRow = .ok read) ↔
      ∀ column ∈ row.columns, column.2 < row.values.length ∧
        row.values[column.2]? ≠ some .null ∧ ∀ x, row.values[column.2]? ≠ some (.real x)) ∧
    (∀ read, row.toRow = .ok read →
      read.keys = (row.columns.map Prod.fst).eraseDups ∧
      (∀ before name index after, row.columns = before ++ (name, index) :: after →
        name ∉ after.map Prod.fst →
          ∃ w v, row.values[index]? = some w ∧ w.ReadsAs v ∧ read.get? name = some v) ∧
      (read.size = row.columns.length ↔ (row.columns.map Prod.fst).Nodup)) ∧
    ∀ e, row.toRow = .error e ↔ ∃ before name index after cause,
      row.columns = before ++ (name, index) :: after ∧
      (∀ column ∈ before, ∀ cause, ¬ row.Refuses column.2 cause) ∧
      row.Refuses index cause ∧ e = .database cause := by
  refine ⟨?_, fun read h => ⟨?_, fun before name index after => get?_of_last_column h, ?_⟩,
    fun e => toRow_eq_error_iff⟩
  · have hwhole : (∃ read, row.toRow = .ok read) ↔
        ∃ pairs, row.columns.mapM row.readColumn = .ok pairs := by
      simp only [toRow_eq_ok_iff]
      exact ⟨fun ⟨_, pairs, h, _⟩ => ⟨pairs, h⟩, fun ⟨pairs, h⟩ => ⟨_, pairs, h, rfl⟩⟩
    simp only [hwhole, exists_mapM_eq_ok_iff, exists_readColumn_iff, exists_read_iff]
  · obtain ⟨pairs, hpairs, rfl⟩ := toRow_eq_ok_iff.mp h
    rw [Ordered.keys_ofList, map_fst_of_mapM_readColumn hpairs]
  · obtain ⟨pairs, hpairs, rfl⟩ := toRow_eq_ok_iff.mp h
    have hlength : pairs.length = row.columns.length :=
      (mapM_eq_ok_iff.mp hpairs).length_eq.symm
    rw [← map_fst_of_mapM_readColumn hpairs, ← Ordered.size_ofList_eq_length_iff, hlength]

/-- A join delivers two columns of one name, at indices in another order than the columns.  With a
null in it the row is refused, before the index that it does not have. -/
theorem row_of_joined_tables :
    let columns := [("id", 2), ("name", 1), ("id", 0)]
    let row : WireRow := ⟨columns, [.bigInt 1, .text "Ada", .smallInt 7]⟩
    let refused : WireRow := ⟨columns ++ [("age", 3)], [.null, .text "Ada", .smallInt 7]⟩
    (∃ read, row.toRow = .ok read ∧ read.keys = ["id", "name"] ∧
      read.get? "id" = some (.int64 1) ∧ read.size ≠ 3) ∧
      refused.toRow = .error (.database (.unreadable 0 "NULL")) := by
  intro columns row refused
  obtain ⟨hwhole, hread, -⟩ := row.toRow_all_or_nothing
  obtain ⟨-, -, hrefused⟩ := refused.toRow_all_or_nothing
  have hreadable : ∀ column ∈ row.columns, column.2 < row.values.length ∧
      row.values[column.2]? ≠ some .null ∧ ∀ x, row.values[column.2]? ≠ some (.real x) := by
    intro column hcolumn
    simp only [row, columns, List.mem_cons, List.not_mem_nil, or_false] at hcolumn
    rcases hcolumn with rfl | rfl | rfl
    all_goals exact ⟨by decide, nofun, nofun⟩
  obtain ⟨read, hrow⟩ := hwhole.mpr hreadable
  obtain ⟨hkeys, hlast, hsize⟩ := hread read hrow
  refine ⟨⟨read, hrow, hkeys.trans (by decide), ?_, fun h => absurd (hsize.mp h) (by decide)⟩, ?_⟩
  · obtain ⟨w, v, hw, hreads, hid⟩ := hlast [("id", 2), ("name", 1)] "id" 0 [] rfl List.not_mem_nil
    cases hw
    cases hreads
    exact hid
  · refine (hrefused _).mpr ⟨[("id", 2), ("name", 1)], "id", 0, [("age", 3)], _, rfl, ?_, .null rfl, rfl⟩
    intro column hcolumn
    simp only [List.mem_cons, List.not_mem_nil, or_false] at hcolumn
    rcases hcolumn with rfl | rfl
    all_goals exact exists_read_iff_not_refuses.mp ⟨_, rfl⟩

end WireRow

end SqlBuilder
