import SqlBuilder.Connection.Scripted
import SqlBuilder.Proofs.FirstFailures
import SqlBuilder.Proofs.OperationPlans

/-!
# Reads with a type

Reading with a type is reading without one and then decoding each row from its JSON object.  The
decoder comes after the statement has run: it has no part in what is sent, nor in what is left of the
session, and a failure of the read is there before any decoder is asked.  Of the rows, the first that
does not fit is the error, and then none of the others is handed out, though the database delivered
them all (`getAs_refines_get`).

What a decoder is given is an object with the columns of the row for its names, each once, in the
order of names instead of the order of columns (`Row.exists_toJson`).
-/
namespace SqlBuilder

/-! ## Rows as JSON objects -/

theorem increasing_foldl_insertSorted {α : Type} {entries : List (String × α)}
    (h : Increasing entries) (pairs : List (String × α)) :
    Increasing (pairs.foldl (fun sorted pair => insertSorted pair.1 pair.2 sorted) entries) := by
  induction pairs generalizing entries with
  | nil => exact h
  | cons pair pairs ih => exact ih (insertSorted_increasing h)

/-- Pairs whose names are all new are sorted in among the entries, and none is lost. -/
theorem perm_foldl_insertSorted {α : Type} {entries pairs : List (String × α)}
    (h : ((entries ++ pairs).map Prod.fst).Nodup) :
    (pairs.foldl (fun sorted pair => insertSorted pair.1 pair.2 sorted) entries).Perm
      (entries ++ pairs) := by
  -- The names must be new among those written before them, which become entries one after the other.
  induction pairs generalizing entries with
  | nil => rw [List.append_nil, List.foldl_nil]
  | cons pair pairs ih =>
    have hnew : pair.1 ∉ entries.map Prod.fst := by
      intro hmem
      rw [List.map_append] at h
      exact (List.nodup_append.mp h).2.2 _ hmem _ List.mem_cons_self rfl
    have hwrite : (insertSorted pair.1 pair.2 entries ++ pairs).Perm (entries ++ pair :: pairs) :=
      ((perm_insertSorted pair.2 hnew).append_right pairs).trans List.perm_middle.symm
    rw [List.foldl_cons]
    exact (ih ((hwrite.map Prod.fst).nodup_iff.mpr h)).trans hwrite

/-- A row is an object whose members are its columns, each with the JSON form of its value, in the
order of their names. -/
theorem Row.exists_toJson (row : Row) :
    ∃ members, row.toJson = .object members ∧ Increasing members ∧
      members.Perm (row.entries.map fun entry => (entry.1, entry.2.toJson)) := by
  have hnames : ((row.entries.map fun entry => (entry.1, entry.2.toJson)).map Prod.fst).Nodup := by
    rw [List.map_map]
    exact row.nodup
  exact ⟨_, rfl, increasing_foldl_insertSorted .nil _, @perm_foldl_insertSorted _ [] _ hnames⟩

/-! ## Decoding rows -/

section Decoding

variable {α : Type} {decode : Json → Except DecodeError α} {rows : List Row}

/-- A decoder accepts the object of a row. -/
def Accepts (decode : Json → Except DecodeError α) (row : Row) : Prop :=
  ∃ item, decode row.toJson = .ok item

theorem decodeRows_eq_ok_iff {items : List α} :
    decodeRows decode rows = .ok items ↔
      List.Forall₂ (fun row item => decode row.toJson = .ok item) rows items := by
  rw [← mapM_eq_ok_iff, decodeRows]
  cases rows.mapM fun row => decode row.toJson with
  | ok decoded => exact ⟨fun h => congrArg _ (Except.ok.inj h), fun h => congrArg _ (Except.ok.inj h)⟩
  | error cause => exact ⟨nofun, nofun⟩

theorem exists_decodeRows_iff :
    (∃ items, decodeRows decode rows = .ok items) ↔ ∀ row ∈ rows, Accepts decode row := by
  simp only [decodeRows_eq_ok_iff, ← mapM_eq_ok_iff]
  exact exists_mapM_eq_ok_iff

/-- The error is about the first row that the decoder does not accept. -/
theorem decodeRows_eq_error_iff {e : Error} :
    decodeRows decode rows = .error e ↔ ∃ before row after cause, rows = before ++ row :: after ∧
      (∀ accepted ∈ before, Accepts decode accepted) ∧ decode row.toJson = .error cause ∧
      e = .serialization cause := by
  have hcause : decodeRows decode rows = .error e ↔
      ∃ cause, (rows.mapM fun row => decode row.toJson) = .error cause ∧ e = .serialization cause := by
    rw [decodeRows]
    cases rows.mapM fun row => decode row.toJson with
    | ok decoded => exact ⟨nofun, fun ⟨_, h, _⟩ => nomatch h⟩
    | error cause =>
      constructor
      · rintro ⟨⟩
        exact ⟨cause, rfl, rfl⟩
      · rintro ⟨_, ⟨⟩, rfl⟩
        rfl
  simp only [hcause, mapM_eq_error_iff]
  constructor
  · rintro ⟨cause, ⟨before, row, after, hrows, hbefore, hrow⟩, he⟩
    exact ⟨before, row, after, cause, hrows, hbefore, hrow, he⟩
  · rintro ⟨before, row, after, cause, hrows, hbefore, hrow, he⟩
    exact ⟨cause, ⟨before, row, after, hrows, hbefore, hrow⟩, he⟩

end Decoding

/-! ## The read and its rows -/

namespace Session

variable {σ α : Type}

/-- **A typed read is a read and then a decoder for each row.**  It leaves the session as the read
does, blank, with the same calls made; a failure of the read is its failure.  Of the rows, it hands
out what the decoder makes of each, in their order, exactly if the decoder accepts them all, and else
fails as the decoder does at the first that it rejects.  The decoder is given an object that has the
columns of the row as names, and under each the JSON form of its value. -/
theorem getAs_refines_get (s : Session σ) (decode : Json → Except DecodeError α) :
    (s.getAs decode).2 = s.get.2 ∧ s.get.2.draft = .blank ∧
      (s.recorded.getAs decode).2.connection.2 = s.exchanges [.get] ∧
      (∀ e, s.get.1 = .error e → (s.getAs decode).1 = .error e) ∧
      (∀ rows, s.get.1 = .ok rows →
        (∀ items, (s.getAs decode).1 = .ok items ↔
          List.Forall₂ (fun row item => decode row.toJson = .ok item) rows items) ∧
        ((∃ items, (s.getAs decode).1 = .ok items) ↔ ∀ row ∈ rows, Accepts decode row) ∧
        ∀ e, (s.getAs decode).1 = .error e ↔
          ∃ before row after cause, rows = before ++ row :: after ∧
            (∀ accepted ∈ before, Accepts decode accepted) ∧ decode row.toJson = .error cause ∧
            e = .serialization cause) ∧
      ∀ row : Row, ∃ members, row.toJson = .object members ∧ Increasing members ∧
        members.Perm (row.entries.map fun entry => (entry.1, entry.2.toJson)) := by
  -- The decoder only ever sees the outcome; the session is already what the read leaves of it.
  have houtcome : (s.getAs decode).1 = s.get.1.bind (decodeRows decode) := rfl
  refine ⟨rfl, rfl, rfl, fun e he => ?_, fun rows hrows => ?_, Row.exists_toJson⟩
  · rw [houtcome, he]
    rfl
  · rw [houtcome, hrows]
    exact ⟨fun items => decodeRows_eq_ok_iff, exists_decodeRows_iff,
      fun e => decodeRows_eq_error_iff⟩

/-- Three rows are delivered, and a null in the second is the error of the read with a type. -/
theorem getAs_of_null_in_second_row :
    let row (id : Value) : Row := Ordered.ofList [("name", .text "Ada"), ("id", id)]
    let rows := [row (.int32 7), row .null, row (.text "8")]
    let s := ((Session.new (Scripted.backend .sqlite) { Scripted.initial with rows }).performAll
      [.edit (.table "users")]).2
    let decode := Reader.record "User" [⟨"id", .signed64, none⟩]
    s.get.1 = .ok rows ∧ Accepts decode (row (.int32 7)) ∧
      (s.getAs decode).1 = .error (.serialization (.wrongType .null .signed64)) := by
  intro row rows s decode
  obtain ⟨-, -, -, -, hrows, -⟩ := s.getAs_refines_get decode
  have hget : s.get.1 = .ok rows := rfl
  have hfirst : Accepts decode (row (.int32 7)) := ⟨_, rfl⟩
  refine ⟨hget, hfirst, ?_⟩
  refine ((hrows rows hget).2.2 _).mpr
    ⟨[row (.int32 7)], row .null, [row (.text "8")], _, rfl, ?_, rfl, rfl⟩
  intro accepted haccepted
  rw [List.mem_singleton.mp haccepted]
  exact hfirst

end Session

end SqlBuilder
