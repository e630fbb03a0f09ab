import SqlBuilder.Json.Printer
import SqlBuilder.Json.Reading
import SqlBuilder.Proofs.JsonRoundTrip
import SqlBuilder.Proofs.TypedReads

/-!
# Values as they are presented

There are two ways from a value to JSON.  One is its JSON form, in which rows are decoded; the other
is to present it to the JSON output format, as it would be to any other.  Presenting goes further into
a value than its JSON form does: a JSON value that is held in a column is not handed over whole, but
taken apart down to its numbers, and put together again by the format.

A `Presentation` is everything that an output format gets to know, and `Presentation.toJson` is what
the JSON format makes of it.  The two ways agree (`toJson_presentation`).  For numbers that are no
integers it holds because widening a single is exact and keeps it finite or not; and for what is held
because the members of an object are in order, so that writing them one after the other leaves them
where they are (`ofMembers_of_increasing`).
-/
namespace SqlBuilder

/-! ## Presentations -/

/-- What an output format is given of a value, with the parts of a whole below it. -/
inductive Presentation where
  | unit
  | bool (b : Bool)
  | int32 (n : Int32)
  | int64 (n : Int64)
  | natural64 (n : UInt64)
  | byte (n : UInt8)
  | single (x : Single)
  | double (x : Double)
  | string (s : String)
  | sequence (items : List Presentation)
  | map (members : List (String × Presentation))

namespace Json

mutual

/-- A JSON value, part by part.  A whole number is presented with a sign only if it needs one. -/
def presentation : Json → Presentation
  | .null => .unit
  | .bool b => .bool b
  | .number (.whole n) =>
      if 0 ≤ n.val then .natural64 (UInt64.ofNat n.val.toNat) else .int64 (Int64.ofInt n.val)
  | .number (.real x _) => .double x
  | .string s => .string s
  | .array items => .sequence (itemPresentations items)
  | .object members => .map (memberPresentations members)

def itemPresentations : List Json → List Presentation
  | [] => []
  | item :: rest => item.presentation :: itemPresentations rest

def memberPresentations : List (String × Json) → List (String × Presentation)
  | [] => []
  | (name, value) :: rest => (name, value.presentation) :: memberPresentations rest

end

theorem itemPresentations_eq (items : List Json) :
    itemPresentations items = items.map presentation := by
  induction items with
  | nil => rfl
  | cons item rest ih => rw [itemPresentations, ih, List.map_cons]

theorem memberPresentations_eq (members : List (String × Json)) :
    memberPresentations members = members.map fun member => (member.1, member.2.presentation) := by
  induction members with
  | nil => rfl
  | cons member rest ih => rw [memberPresentations, ih, List.map_cons]

end Json

/-- The presenter that only takes down what it is given. -/
def Presenter.whole : Presenter Presentation where
  unit := .unit
  bool := .bool
  int32 := .int32
  int64 := .int64
  single := .single
  double := .double
  string := .string
  byte := .byte
  sequence := .sequence
  map := .map
  json := Json.presentation

namespace Presentation

mutual

/-- What the JSON format makes of a presentation.  Whether a number is finite is asked of the number
as it is given, before it is widened. -/
def toJson : Presentation → Json
  | .unit => .null
  | .bool b => .bool b
  | .int32 n => .whole (.ofInt32 n)
  | .int64 n => .whole (.ofInt64 n)
  | .natural64 n => .whole (.ofNat n.toNat n.toNat_lt)
  | .byte n => .whole (.ofByte n)
  | .single x => if x.isFinite then .ofDouble x.widen else .null
  | .double x => .ofDouble x
  | .string s => .string s
  | .sequence items => .array (itemsToJson items)
  | .map members => Json.ofMembers (membersToJson members)

def itemsToJson : List Presentation → List Json
  | [] => []
  | item :: rest => item.toJson :: itemsToJson rest

def membersToJson : List (String × Presentation) → List (String × Json)
  | [] => []
  | (name, value) :: rest => (name, value.toJson) :: membersToJson rest

end

theorem itemsToJson_eq (items : List Presentation) : itemsToJson items = items.map toJson := by
  induction items with
  | nil => rfl
  | cons item rest ih => rw [itemsToJson, ih, List.map_cons]

theorem membersToJson_eq (members : List (String × Presentation)) :
    membersToJson members = members.map fun member => (member.1, member.2.toJson) := by
  induction members with
  | nil => rfl
  | cons member rest ih => rw [membersToJson, ih, List.map_cons]

end Presentation

/-! ## JSON values in order -/

/-- Pairs that are written one after the other come to stand in order, whatever order they had. -/
theorem foldl_insertSorted_of_perm {α : Type} {pairs entries : List (String × α)}
    (hperm : pairs.Perm entries) (h : Increasing entries) :
    pairs.foldl (fun sorted pair => insertSorted pair.1 pair.2 sorted) [] = entries := by
  have hnames : (entries.map Prod.fst).Nodup := by
    refine List.pairwise_map.mpr (h.imp fun {a b} hlt heq => ?_)
    rw [heq] at hlt
    exact String.lt_irrefl _ hlt
  have hwritten := @perm_foldl_insertSorted _ [] pairs ((hperm.map Prod.fst).nodup_iff.mpr hnames)
  refine (hwritten.trans hperm).eq_of_pairwise ?_ (increasing_foldl_insertSorted .nil pairs) h
  intro a b _ _ hab hba
  exact absurd (String.lt_trans hab hba) (String.lt_irrefl _)

namespace Json

/-- The members of every object in a JSON value stand in increasing order of their names. -/
inductive IsInOrder : Json → Prop
  | null : IsInOrder .null
  | bool (b : Bool) : IsInOrder (.bool b)
  | number (n : JsonNumber) : IsInOrder (.number n)
  | string (s : String) : IsInOrder (.string s)
  | array {items : List Json} (h : ∀ item ∈ items, IsInOrder item) : IsInOrder (.array items)
  | object {members : List (String × Json)} (hnames : Increasing members)
      (h : ∀ member ∈ members, IsInOrder member.2) : IsInOrder (.object members)

/-- Members that are in order stay as they are when they are written one after the other. -/
theorem ofMembers_of_increasing {members : List (String × Json)} (h : Increasing members) :
    ofMembers members = .object members :=
  congrArg Json.object (foldl_insertSorted_of_perm (.refl _) h)

theorem toJson_presentation_number (n : JsonNumber) :
    (Json.number n).presentation.toJson = .number n := by
  cases n with
  | real x hx => exact dif_pos hx
  | whole n =>
    have hlower := n.lower
    have hupper := n.upper
    rw [presentation]
    split
    · have hval : (UInt64.ofNat n.val.toNat).toNat = n.val.toNat :=
        UInt64.toNat_ofNat_of_lt' (by show n.val.toNat < 18446744073709551616; omega)
      refine congrArg (fun m => Json.number (.whole m)) (Whole.eq_of_val ?_)
      show ((UInt64.ofNat n.val.toNat).toNat : Int) = n.val
      omega
    · refine congrArg (fun m => Json.number (.whole m)) (Whole.eq_of_val ?_)
      exact Int64.toInt_ofInt_of_le (by omega) (by omega)

/-- A JSON value that is taken apart is put together again. -/
theorem IsInOrder.toJson_presentation {json : Json} (h : json.IsInOrder) :
    json.presentation.toJson = json := by
  induction h with
  | null | bool b | string s => rfl
  | number n => exact toJson_presentation_number n
  | @array items h ih =>
    rw [presentation, Presentation.toJson, itemPresentations_eq, Presentation.itemsToJson_eq,
      List.map_map]
    exact congrArg Json.array ((List.map_congr_left ih).trans (List.map_id items))
  | @object members hnames h ih =>
    rw [presentation, Presentation.toJson, memberPresentations_eq, Presentation.membersToJson_eq,
      List.map_map, ← ofMembers_of_increasing hnames]
    have hmembers : ∀ member ∈ members, (member.1, member.2.presentation.toJson) = member :=
      fun member hmember => Prod.ext rfl (ih member hmember)
    exact congrArg ofMembers ((List.map_congr_left hmembers).trans (List.map_id members))

end Json

/-! ## JSON values that are read -/

theorem mem_foldl_insertSorted {α : Type} {entries pairs : List (String × α)} {entry : String × α}
    (h : entry ∈ pairs.foldl (fun sorted pair => insertSorted pair.1 pair.2 sorted) entries) :
    entry ∈ entries ∨ entry ∈ pairs := by
  induction pairs generalizing entries with
  | nil => exact .inl h
  | cons pair pairs ih =>
    rcases ih h with h | h
    · rcases mem_insertSorted h with rfl | h
      · exact .inr List.mem_cons_self
      · exact .inl h
    · exact .inr (List.mem_cons_of_mem _ h)

theorem Json.isInOrder_ofMembers {members : List (String × Json)}
    (h : ∀ member ∈ members, member.2.IsInOrder) : (ofMembers members).IsInOrder := by
  refine .object (increasing_foldl_insertSorted .nil members) fun member hmember => ?_
  rcases mem_foldl_insertSorted hmember with hmember | hmember
  · cases hmember
  · exact h member hmember

namespace Outline

mutual

theorem isInOrder_toJson {depth : Nat} {outline : Outline} {json : Json}
    (h : outline.toJson depth = .ok json) : json.IsInOrder := by
  match outline with
  | .null | .bool b =>
    cases h
    constructor
  | .number n =>
    rw [toJson] at h
    split at h
    · cases h
      exact .number _
    · cases h
  | .string text =>
    obtain ⟨s, -, h⟩ := except_bind_eq_ok_iff.mp h
    cases h
    exact .string s
  | .array items fault =>
    match depth with
    | 0 => cases h
    | depth + 1 =>
      obtain ⟨read, hread, h⟩ := except_bind_eq_ok_iff.mp h
      obtain ⟨-, -, h⟩ := except_bind_eq_ok_iff.mp h
      cases h
      exact .array (isInOrder_itemsToJson hread)
  | .object members fault =>
    match depth with
    | 0 => cases h
    | depth + 1 =>
      obtain ⟨read, hread, h⟩ := except_bind_eq_ok_iff.mp h
      obtain ⟨-, -, h⟩ := except_bind_eq_ok_iff.mp h
      cases h
      exact Json.isInOrder_ofMembers (isInOrder_membersToJson hread)
  | .brokenNumber fault | .broken fault => cases h

theorem isInOrder_itemsToJson {depth : Nat} {items : List Outline} {read : List Json}
    (h : itemsToJson depth items = .ok read) : ∀ json ∈ read, json.IsInOrder := by
  match items with
  | [] =>
    cases h
    nofun
  | item :: rest =>
    obtain ⟨first, hfirst, h⟩ := except_bind_eq_ok_iff.mp h
    obtain ⟨others, hothers, h⟩ := except_bind_eq_ok_iff.mp h
    cases h
    exact List.forall_mem_cons.mpr ⟨isInOrder_toJson hfirst, isInOrder_itemsToJson hothers⟩

theorem isInOrder_membersToJson {depth : Nat} {members : List (Literal × Outline)}
    {read : List (String × Json)} (h : membersToJson depth members = .ok read) :
    ∀ member ∈ read, member.2.IsInOrder := by
  match members with
  | [] =>
    cases h
    nofun
  | (name, value) :: rest =>
    obtain ⟨written, -, h⟩ := except_bind_eq_ok_iff.mp h
    obtain ⟨first, hfirst, h⟩ := except_bind_eq_ok_iff.mp h
    obtain ⟨others, hothers, h⟩ := except_bind_eq_ok_iff.mp h
    cases h
    exact List.forall_mem_cons.mpr ⟨isInOrder_toJson hfirst, isInOrder_membersToJson hothers⟩

end

end Outline

/-- Whatever is read from a text is in order, however its objects were written. -/
theorem Json.isInOrder_ofString {text : String} {json : Json} (h : Json.ofString text = .ok json) :
    json.IsInOrder := by
  obtain ⟨read, hread, h⟩ := except_bind_eq_ok_iff.mp h
  split at h
  · cases h
  · cases h
    exact Outline.isInOrder_toJson hread

/-! ## Values and rows -/

namespace Value

/-- What a value holds of JSON is in order. -/
def IsInOrder : Value → Prop
  | json held => held.IsInOrder
  | _ => True

/-- Through its presentation a value comes to its JSON form. -/
theorem IsInOrder.toJson_presentation {v : Value} (h : v.IsInOrder) :
    (v.present .whole).toJson = v.toJson := by
  cases v with
  | null | bool b | int32 n | int64 n | double x | text s => rfl
  | json held => exact Json.IsInOrder.toJson_presentation h
  | single x =>
    -- The number itself is asked for being finite, and the widened one in the JSON form.
    show (if x.isFinite then Json.ofDouble x.widen else .null) = Json.ofDouble x.widen
    cases hx : x.isFinite with
    | true => rfl
    | false =>
      rw [← Floating.isFinite_widen] at hx
      rw [Json.ofDouble, dif_neg (Bool.eq_false_iff.mp hx)]
      rfl
  | bytes octets =>
    show Json.array (Presentation.itemsToJson (octets.map .byte)) = _
    rw [Presentation.itemsToJson_eq, List.map_map]
    rfl

/-- A finite single is the number that it is, with its sign, and any other is null. -/
theorem toJson_single (x : Single) :
    (x.isFinite = false → (single x).toJson = .null) ∧
      ∀ negative s e, x.view = .finite negative s e → ∃ finite k,
        (single x).toJson = .number (.real x.widen finite) ∧
          x.widen.view = .finite negative (s * Nat.pow 2 k) (e - k) := by
  rw [← Floating.isFinite_widen]
  refine ⟨fun hx => dif_neg (Bool.eq_false_iff.mp hx), fun negative s e hview => ?_⟩
  obtain ⟨k, hwide⟩ := Floating.hasValue_widen (Floating.hasValue_of_view hview)
  have hfinite : x.widen.isFinite = true := decide_eq_true hwide.finite
  exact ⟨hfinite, k, dif_pos hfinite, Floating.view_of_hasValue hwide⟩

end Value

/-- A row is presented as a map of its columns, and comes to its JSON object. -/
theorem Row.toJson_presentation {row : Row} (h : ∀ entry ∈ row.entries, entry.2.IsInOrder) :
    (row.present .whole).toJson = row.toJson := by
  show Json.ofMembers (Presentation.membersToJson
    (row.entries.map fun entry => (entry.1, entry.2.present .whole))) = _
  rw [Presentation.membersToJson_eq, List.map_map]
  refine congrArg Json.ofMembers (List.map_congr_left fun entry hentry => ?_)
  exact Prod.ext rfl (h entry hentry).toJson_presentation

/-- Presenting a row to the JSON format directly. -/
theorem Row.present_toJson (row : Row) : row.present .toJson = row.toJson :=
  congrArg Json.ofMembers (List.map_congr_left fun entry _ => Prod.ext rfl entry.2.present_toJson)

/-- **The two ways from a value to JSON agree**, for every kind of value and for rows, whether the
parts of a held JSON value are presented or it is handed over whole.  Numbers that are not finite are
null; a finite single keeps its sign and its number, in as many digits as a double has.  What is held
has to be in order, as all JSON is that was read. -/
theorem presentations_agree :
    (∀ v : Value, v.IsInOrder →
      (v.present .whole).toJson = v.toJson ∧ v.present .toJson = v.toJson) ∧
    (∀ row : Row, (∀ entry ∈ row.entries, entry.2.IsInOrder) →
      (row.present .whole).toJson = row.toJson ∧ row.present .toJson = row.toJson) ∧
    (∀ x : Single, (x.isFinite = false → (Value.single x).toJson = .null) ∧
      ∀ negative s e, x.view = .finite negative s e → ∃ finite k,
        (Value.single x).toJson = .number (.real x.widen finite) ∧
          x.widen.view = .finite negative (s * Nat.pow 2 k) (e - k)) ∧
    ∀ text json, Json.ofString text = .ok json → (Value.json json).IsInOrder :=
  ⟨fun v h => ⟨h.toJson_presentation, v.present_toJson⟩,
    fun row h => ⟨Row.toJson_presentation h, row.present_toJson⟩, Value.toJson_single,
    fun _ _ => Json.isInOrder_ofString⟩

/-- A row with the negative zero of singles, and with a JSON value whose members were written out of
order. -/
theorem presentation_of_nested_json :
    let text := "\x7b\"b\":[\x7b\"z\":0,\"y\":-1\x7d],\"a\":null\x7d"
    let zero : Single := Floating.zero .single true
    let infinity : Single := Floating.infinity .single false
    let row (held : Json) : Row := Ordered.ofList [("zero", .single zero), ("held", .json held)]
    (∃ held, Json.ofString text = .ok held ∧
      held.render = "\x7b\"a\":null,\"b\":[\x7b\"y\":-1,\"z\":0\x7d]\x7d" ∧
      (∀ entry ∈ (row held).entries, entry.2.IsInOrder) ∧
      ((row held).present .whole).toJson = (row held).toJson) ∧
    infinity.isFinite = false ∧ (Value.single infinity).toJson = .null ∧
    zero.view = .finite true 0 (-149) ∧ ∃ k : Nat, zero.widen.view = .finite true 0 (-149 - k) := by
  intro text zero infinity row
  obtain ⟨-, hrows, hsingles, hread⟩ := presentations_agree
  have htext : (Json.ofString text).map Json.render =
      .ok "\x7b\"a\":null,\"b\":[\x7b\"y\":-1,\"z\":0\x7d]\x7d" := by decide +kernel
  obtain ⟨held, hheld, hrender⟩ := except_map_eq_ok_iff.mp htext
  have hrow : ∀ entry ∈ (row held).entries, entry.2.IsInOrder :=
    List.forall_mem_cons.mpr ⟨trivial, List.forall_mem_singleton.mpr (hread text held hheld)⟩
  have hinfinity : infinity.isFinite = false := by decide +kernel
  have hzero : zero.view = .finite true 0 (-149) := by decide +kernel
  obtain ⟨-, k, -, hwide⟩ := (hsingles zero).2 true 0 (-149) hzero
  rw [Nat.zero_mul] at hwide
  exact ⟨⟨held, hheld, hrender, hrow, (hrows _ hrow).1⟩, hinfinity,
    (hsingles infinity).1 hinfinity, hzero, k, hwide⟩

end SqlBuilder
