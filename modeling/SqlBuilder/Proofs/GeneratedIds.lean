import SqlBuilder.Connection.Scripted
import SqlBuilder.Proofs.DecimalNumerals
import SqlBuilder.Proofs.StatementCalls

/-!
# Generated ids

An insert whose generated id is wanted is the insert without it and two more words: the text begins
with the text of that insert, and the values are the same (`Draft.plan_insertReturningId`).

The id is then in the first row of the reply, or it is missed: as an integer of either width, or as a
text, which has to be a numeral of 64 bits (`Integer.Numeral`), the smallest and the largest included.
-/
namespace SqlBuilder

/-! ## Ids in rows -/

/-- The values that are ids, and the ids that they are. -/
inductive Value.Identifies : Value → Int64 → Prop
  | int32 {m : Int32} {n : Int64} (h : m.toInt = n.toInt) : Identifies (.int32 m) n
  | int64 (n : Int64) : Identifies (.int64 n) n
  | text {text : String} {n : Int64} (h : Integer.Numeral text.toList n.toInt) :
      Identifies (.text text) n

theorem Value.toInt64?_eq_some_iff {v : Value} {n : Int64} :
    v.toInt64? = some n ↔ v.Identifies n := by
  constructor
  · intro h
    cases v with
    | int32 m =>
      obtain rfl := Option.some.inj h
      exact .int32 m.toInt_toInt64.symm
    | int64 m =>
      obtain rfl := Option.some.inj h
      exact .int64 m
    | text text => exact .text (Integer.signed64?_eq_some_iff.mp h)
    | _ => cases h
  · rintro (h | _ | h)
    · exact congrArg some (Int64.toInt_inj.mp ((Int32.toInt_toInt64 _).trans h))
    · rfl
    · exact Integer.signed64?_eq_some_iff.mpr h

/-- The first row holds an id in its column, whatever the later rows hold. -/
def FirstId (rows : List Row) (n : Int64) : Prop :=
  ∃ row later value, rows = row :: later ∧ row.get? "id" = some value ∧ value.Identifies n

theorem returnedId_eq_ok_iff {rows : List Row} {n : Int64} :
    returnedId rows = .ok n ↔ FirstId rows n := by
  cases rows with
  | nil =>
    constructor
    · nofun
    · rintro ⟨row, later, value, h, -⟩
      cases h
  | cons row later =>
    have hid : (row.get? "id").bind Value.toInt64? = some n ↔ FirstId (row :: later) n := by
      rw [Option.bind_eq_some_iff]
      constructor
      · rintro ⟨value, hvalue, h⟩
        exact ⟨row, later, value, rfl, hvalue, Value.toInt64?_eq_some_iff.mp h⟩
      · rintro ⟨first, rest, value, hrows, hvalue, h⟩
        cases hrows
        exact ⟨value, hvalue, Value.toInt64?_eq_some_iff.mpr h⟩
    rw [← hid]
    unfold returnedId Draft.idColumn
    dsimp only
    split
    · rename_i id h
      rw [h]
      exact ⟨fun h => congrArg some (Except.ok.inj h), fun h => congrArg Except.ok (Option.some.inj h)⟩
    · rename_i h
      rw [h]
      exact ⟨nofun, nofun⟩

/-- A reply with rows that misses the id is reported as a reply without its column. -/
theorem returnedId_of_missing {row : Row} {later : List Row}
    (h : ∀ n, ¬ FirstId (row :: later) n) :
    returnedId (row :: later) = .error (.database (.columnNotFound "id")) := by
  have hnone : (row.get? Draft.idColumn).bind Value.toInt64? = none := by
    refine Option.eq_none_iff_forall_ne_some.mpr fun n hn => h n ?_
    rw [← returnedId_eq_ok_iff, returnedId, hn]
  unfold returnedId
  dsimp only
  rw [hnone]
  rfl

/-! ## Inserts with and without their ids -/

namespace Draft

variable {d : Draft} {dialect : Dialect} {fields : Fields}

/-- With a table and fields there is an insert, of either kind. -/
theorem prepare_addInserted (htable : d.table ≠ "") (hfields : fields ≠ []) {verb : Verb}
    (hverb : verb = .insert ∨ verb = .insertReturningId) :
    (d.addInserted fields).prepare dialect verb = (d.addInserted fields).compile dialect verb := by
  have hinserted : (d.addInserted fields).inserted ≠ [] := by
    intro h
    exact hfields (List.map_eq_nil_iff.mp (List.append_eq_nil_iff.mp h).2)
  have hcheck : (d.addInserted fields).check verb = .ok () := by
    unfold check
    rw [if_neg (show (d.addInserted fields).table ≠ "" from htable)]
    rcases hverb with rfl | rfl
    · exact if_neg hinserted
    · exact if_neg hinserted
  rw [prepare, hcheck]
  rfl

theorem plan_insert (d : Draft) (dialect : Dialect) (htable : d.table ≠ "")
    (hfields : fields ≠ []) :
    ∃ conclude, d.plan dialect (.insert fields) =
      .ask (.execute (d.addInserted fields).insertSql (d.addInserted fields).bindings) conclude := by
  rw [plan, store, prepare_addInserted htable hfields (.inl rfl)]
  exact ⟨_, rfl⟩

theorem insertReturningIdSql_eq (d : Draft) :
    d.insertReturningIdSql = d.insertSql ++ " RETURNING id" :=
  String.append_assoc

/-- The insert whose id is wanted has the text and the values of the insert. -/
theorem plan_insertReturningId (htable : d.table ≠ "") (hfields : fields ≠ [])
    (hdialect : dialect.returnsIds = true) :
    let sql := (d.addInserted fields).insertSql ++ " RETURNING id"
    d.plan dialect (.insertReturningId fields) =
      .ask (.fetchAll sql (d.addInserted fields).bindings) fun reply : Except Error (List Row) =>
        ((reply.bind returnedId).mapError (Error.withSql sql)).map Outcome.id := by
  intro sql
  have hlacks : ¬(Verb.insertReturningId = .insertReturningId ∧ dialect.returnsIds = false) := by
    rw [hdialect]
    exact fun h => Bool.noConfusion h.2
  have hcompile : (d.addInserted fields).compile dialect .insertReturningId =
      .ok ⟨.insertReturningId, sql, (d.addInserted fields).bindings⟩ := by
    rw [compile, if_neg hlacks, Draft.sql, insertReturningIdSql_eq]
  rw [plan, storeReturningId, prepare_addInserted htable hfields (.inr rfl), hcompile]
  simp only [except_map_eq_bind]
  rfl

theorem plan_insertReturningId_of_lacking (htable : d.table ≠ "") (hfields : fields ≠ [])
    (hdialect : dialect.returnsIds = false) :
    d.plan dialect (.insertReturningId fields) =
      .settled (.error (.unsupported .insertReturningId dialect)) := by
  rw [plan, storeReturningId, prepare_addInserted htable hfields (.inr rfl), compile,
    if_pos ⟨rfl, hdialect⟩]
  rfl

end Draft

namespace Session

variable {σ : Type} (s : Session σ) {fields : Fields}

theorem calls_insert (htable : s.draft.table ≠ "") (hfields : fields ≠ []) :
    s.calls [.insert fields] =
      [.execute (s.draft.addInserted fields).insertSql (s.draft.addInserted fields).bindings] := by
  obtain ⟨conclude, hplan⟩ := s.draft.plan_insert s.dialect htable hfields
  rw [calls, exchanges_singleton, hplan]
  rfl

/-- **An insert that hands its id back is the insert, and the id is read exactly.**  Where the dialect
hands ids back, the statement is that of the insert with `RETURNING id` behind it and with the same
values, and it is sent once.  Of the rows that come back, only the first counts: the outcome is an id
exactly if its column `id` holds that id, as an integer of either width or as a numeral of 64 bits.
Without a row, and where the first has no id, the driver's failure to find it is reported with the
statement as it was sent.  A dialect that hands no ids back is not asked. -/
theorem insertReturningId_refines_insert (htable : s.draft.table ≠ "") (hfields : fields ≠ []) :
    (s.dialect = .postgres ∨ s.dialect = .sqlite → ∃ sql bindings,
      let sent := sql ++ " RETURNING id"
      let reply : Except Error (List Row) :=
        (s.backend.answer (.fetchAll sent bindings) s.connection).1
      s.calls [.insert fields] = [.execute sql bindings] ∧
      s.exchanges [.insertReturningId fields] = [⟨.fetchAll sent bindings, reply⟩] ∧
      ∀ rows, reply = .ok rows →
        (∀ n, (s.perform (.insertReturningId fields)).1 = .ok (.id n) ↔ FirstId rows n) ∧
        (rows = [] → (s.perform (.insertReturningId fields)).1 =
          .error (.queryExecution sent .rowNotFound)) ∧
        (rows ≠ [] → (∀ n, ¬ FirstId rows n) → (s.perform (.insertReturningId fields)).1 =
          .error (.queryExecution sent (.columnNotFound "id")))) ∧
    (s.dialect = .mysql → s.calls [.insertReturningId fields] = [] ∧
      (s.perform (.insertReturningId fields)).1 =
        .error (.unsupported .insertReturningId .mysql)) := by
  constructor
  · intro hdialect
    have hreturns : s.dialect.returnsIds = true := by
      rcases hdialect with h | h
      all_goals
        rw [h]
        rfl
    have hplan := Draft.plan_insertReturningId htable hfields hreturns
    refine ⟨_, _, s.calls_insert htable hfields, ?_, fun rows hrows => ?_⟩
    · rw [exchanges_singleton, hplan]
      rfl
    · have houtcome : (s.perform (.insertReturningId fields)).1 =
          ((returnedId rows).mapError (Error.withSql
            ((s.draft.addInserted fields).insertSql ++ " RETURNING id"))).map Outcome.id := by
        rw [perform_eq, hplan]
        show ((Except.bind _ returnedId).mapError _).map _ = _
        rw [hrows]
        rfl
      rw [houtcome]
      refine ⟨fun n => ?_, ?_, fun hne hmissing => ?_⟩
      · rw [← returnedId_eq_ok_iff]
        cases returnedId rows with
        | ok id =>
          exact ⟨fun h => congrArg Except.ok (Outcome.id.inj (Except.ok.inj h)),
            fun h => congrArg (fun id => Except.ok (Outcome.id id)) (Except.ok.inj h)⟩
        | error e => exact ⟨nofun, nofun⟩
      · rintro rfl
        rfl
      · cases rows with
        | nil => exact absurd rfl hne
        | cons row later =>
          rw [returnedId_of_missing hmissing]
          rfl
  · intro hdialect
    have hreturns : s.dialect.returnsIds = false := by
      rw [hdialect]
      rfl
    have hplan := Draft.plan_insertReturningId_of_lacking htable hfields hreturns
    rw [hdialect] at hplan
    rw [calls, exchanges_singleton, perform_eq, hdialect, hplan]
    exact ⟨rfl, rfl⟩

/-- The smallest id comes as a text, and a row behind it holds another one. -/
theorem insertReturningId_of_smallest_id :
    let session (dialect : Dialect) (rows : List Row) : Session Scripted :=
      ((Session.new (Scripted.backend dialect) { Scripted.initial with rows }).performAll
        [.edit (.table "users"), .edit (.filter ⟨"users.id", .equal, .int32 1, .and⟩)]).2
    let rows : List Row :=
      [Ordered.ofList [("name", .null), ("id", .text "-9223372036854775808")],
        Ordered.ofList [("id", .int64 7)]]
    let fields : Fields := [("name", .text "Ada")]
    let insert := "INSERT INTO users (name) VALUES (:name)"
    let bindings : Bindings := Ordered.ofList [(":id", .int32 1), (":name", .text "Ada")]
    (session .postgres rows).calls [.insert fields] = [.execute insert bindings] ∧
      (session .postgres rows).calls [.insertReturningId fields] =
        [.fetchAll (insert ++ " RETURNING id") bindings] ∧
      ((session .postgres rows).perform (.insertReturningId fields)).1 =
        .ok (.id (-9223372036854775808)) ∧
      ((session .sqlite []).perform (.insertReturningId fields)).1 =
        .error (.queryExecution (insert ++ " RETURNING id") .rowNotFound) ∧
      (session .mysql rows).calls [.insertReturningId fields] = [] := by
  intro session rows fields insert bindings
  have hfields : fields ≠ [] := List.cons_ne_nil _ _
  have hrefines := fun dialect rows =>
    (session dialect rows).insertReturningId_refines_insert (by decide : "users" ≠ "") hfields
  have hinsert : ∀ dialect rows, (session dialect rows).calls [.insert fields] =
      [.execute insert bindings] := fun _ _ => rfl
  have hid : FirstId rows (-9223372036854775808) :=
    ⟨_, _, _, rfl, rfl, Value.toInt64?_eq_some_iff.mp (by decide +kernel)⟩
  obtain ⟨sql, bound, hcalls, hexchanges, houtcome⟩ := (hrefines .postgres rows).1 (.inl rfl)
  rw [hinsert] at hcalls
  cases hcalls
  obtain ⟨sql, bound, hcalls, -, hempty⟩ := (hrefines .sqlite []).1 (.inr rfl)
  rw [hinsert] at hcalls
  cases hcalls
  refine ⟨hinsert _ _, ?_, ((houtcome rows rfl).1 _).mpr hid, (hempty [] rfl).2.1 rfl,
    ((hrefines .mysql rows).2 rfl).1⟩
  rw [calls, hexchanges]
  rfl

end Session

end SqlBuilder
