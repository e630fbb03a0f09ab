import Mathlib.Data.List.Nodup
import Mathlib.Data.List.Perm.Basic
import SqlBuilder.Config.Text
import SqlBuilder.Proofs.Presentations
import SqlBuilder.Proofs.WrittenJson

/-!
# Spellings of configurations

There are many JSON texts for a configuration.  It is an object with its fields, in any order, and
with whatever else is there under other names; or an array of its fields in their own order.  A field
at its default may be left out, in an array if all behind it are left out too.  `IsSpelledBy` says
this of outlines, so that it does not matter how a text is laid out or how it escapes its characters,
and `ofString_of_isSpelledBy` that all of them mean the configuration.

The text that is written for a configuration is read as an outline in which its fields stand, and such
an outline is a spelling (`IsSpelledBy.of_isShownBy`).

While a spelling is read, what has been gathered is what the configuration says of the fields that
have come by (`Gathered.ofFields`).  This is kept by every member and every item, and where the
fields that have not come by are at their defaults, it is completed to the configuration.
-/
namespace SqlBuilder

/-! ## Values that nobody asked for -/

namespace Outline

/-- The text of a value does not stop being JSON.  Nothing is asked of its numbers, nor of the
surrogates in its literals. -/
inductive IsFaultless : Outline → Prop
  | null : IsFaultless .null
  | bool (b : Bool) : IsFaultless (.bool b)
  | number (n : Numeral) : IsFaultless (.number n)
  | string {text : Literal} (h : text.fault = none) : IsFaultless (.string text)
  | array {items : List Outline} (h : ∀ item ∈ items, IsFaultless item) :
      IsFaultless (.array items none)
  | object {members : List (Literal × Outline)} (hnames : ∀ member ∈ members, member.1.fault = none)
      (h : ∀ member ∈ members, IsFaultless member.2) : IsFaultless (.object members none)

theorem passOver_literal {text : Literal} (h : text.fault = none) : text.passOver = .ok () := by
  rw [Literal.passOver, h]

theorem passOverItems_eq {items : List Outline} (h : ∀ item ∈ items, item.passOver = .ok ()) :
    passOverItems items = .ok () := by
  induction items with
  | nil => rfl
  | cons item rest ih =>
    obtain ⟨hitem, hrest⟩ := List.forall_mem_cons.mp h
    rw [passOverItems, hitem]
    exact ih hrest

theorem passOverMembers_eq {members : List (Literal × Outline)}
    (hnames : ∀ member ∈ members, member.1.fault = none)
    (h : ∀ member ∈ members, member.2.passOver = .ok ()) : passOverMembers members = .ok () := by
  induction members with
  | nil => rfl
  | cons member rest ih =>
    obtain ⟨hname, hnames⟩ := List.forall_mem_cons.mp hnames
    obtain ⟨hvalue, hrest⟩ := List.forall_mem_cons.mp h
    rw [passOverMembers, passOver_literal hname, hvalue]
    exact ih hnames hrest

/-- Whatever there is to pass over, of any depth, is passed over. -/
theorem IsFaultless.passOver_eq {outline : Outline} (h : outline.IsFaultless) :
    outline.passOver = .ok () := by
  induction h with
  | null | bool b | number n => rfl
  | string h => exact passOver_literal h
  | array h ih =>
    rw [passOver, passOverItems_eq ih]
    rfl
  | object hnames h ih =>
    rw [passOver, passOverMembers_eq hnames ih]
    rfl

end Outline

/-! ## Values that are asked for -/

namespace Json.IsShownBy

variable {outline : Outline}

theorem readString_eq {s : String} (h : (Json.string s).IsShownBy outline) :
    outline.readString = .ok s := by
  cases h with
  | string h =>
    rw [Outline.readString, h]
    rfl

/-- Null is nothing, and what another reader reads is something. -/
theorem readOptional_eq {α : Type} {json : Json} {read : Outline → Except ReadFault α} {x : α}
    (h : json.IsShownBy outline) (hnull : json ≠ .null) (hread : read outline = .ok x) :
    outline.readOptional read = .ok (some x) := by
  cases h with
  | null => exact absurd rfl hnull
  | bool b | number h | string h | array h | object hperm h =>
    rw [Outline.readOptional, hread]
    · rfl
    · nofun

theorem readOptional_readString_eq {text : Option String}
    (h : (Config.optionalText text).IsShownBy outline) :
    outline.readOptional Outline.readString = .ok text := by
  cases text with
  | none =>
    cases h
    rfl
  | some s => exact h.readOptional_eq nofun h.readString_eq

end Json.IsShownBy

/-- A map is what comes of its pairs, in whatever order they are written. -/
theorem Sorted.ofList_of_perm {α : Type} {m : Sorted α} {pairs : List (String × α)}
    (h : pairs.Perm m.entries) : Sorted.ofList pairs = m := by
  have hentries : ∀ read : Sorted α,
      (pairs.foldl (fun m pair => m.insert pair.1 pair.2) read).entries =
        pairs.foldl (fun sorted pair => insertSorted pair.1 pair.2 sorted) read.entries := by
    clear h
    induction pairs with
    | nil => exact fun _ => rfl
    | cons pair pairs ih => exact fun read => ih (read.insert pair.1 pair.2)
  exact Sorted.ext ((hentries empty).trans (foldl_insertSorted_of_perm h m.increasing))

theorem Outline.readStringMembers_eq {pairs : List (String × String)}
    {members : List (String × Json)} {outlines : List (Literal × Outline)}
    (hmembers : List.Forall₂ (fun member pair => member = (pair.1, .string pair.2)) members pairs)
    (h : List.Forall₂ Json.IsMemberShownBy members outlines) (read : Sorted String) :
    readStringMembers read outlines =
      .ok (pairs.foldl (fun m pair => m.insert pair.1 pair.2) read) := by
  induction h generalizing pairs read with
  | nil =>
    cases hmembers
    rfl
  | @cons member outline members outlines hfirst h ih =>
    cases hmembers with
    | @cons _ pair _ pairs hpair hpairs =>
      subst hpair
      cases hfirst with
      | mk hname hvalue =>
        rw [readStringMembers, hname]
        rw [hvalue.readString_eq]
        exact ih hpairs _

/-! ## The configuration -/

namespace Config

theorem port_in_range (port : UInt16) : port.toNat < 0x10000000000000000 := by
  have := port.toNat_lt
  omega

def portNumber (port : UInt16) : Whole := .ofNat port.toNat (port_in_range port)

def portJson (port : Option UInt16) : Json :=
  match port with
  | some port => .whole (portNumber port)
  | none => .null

/-- The JSON form of a field. -/
def fieldJson (c : Config) : Key → Json
  | .driver => .string c.driver
  | .host => optionalText c.host
  | .port => portJson c.port
  | .dbname => .string c.dbname
  | .user => optionalText c.user
  | .password => optionalText c.password
  | .options => .object (c.options.entries.map fun o => (o.1, .string o.2))

/-- All fields with their names, in their own order. -/
def fieldMembers (c : Config) : List (String × Json) :=
  Key.all.map fun key => (key.name, c.fieldJson key)

/-- A field holds what it holds if it is left out.  That is never so of a field that is required. -/
def AtDefault (c : Config) : Key → Prop
  | .driver => False
  | .host => c.host = none
  | .port => c.port = none
  | .dbname => False
  | .user => c.user = none
  | .password => c.password = none
  | .options => c.options = .empty

/-- A member that an object may have for the configuration: a field with its value, or whatever value
under a name that no field has. -/
inductive HasMember (c : Config) : String → Literal × Outline → Prop
  | field {key : Key} {name : Literal} {value : Outline} (hname : name.text = .ok key.name)
      (hvalue : (c.fieldJson key).IsShownBy value) : HasMember c key.name (name, value)
  | other {s : String} {name : Literal} {value : Outline} (hname : name.text = .ok s)
      (hother : ∀ key : Key, key.name ≠ s) (hvalue : value.IsFaultless) :
      HasMember c s (name, value)

/-- The outlines that mean a configuration. -/
inductive IsSpelledBy (c : Config) : Outline → Prop
  /-- Members under the given names, no field twice. -/
  | object {names : List String} {members : List (Literal × Outline)}
      (hmembers : List.Forall₂ c.HasMember names members)
      (hdistinct : ∀ key : Key, names.count key.name ≤ 1)
      (hleftOut : ∀ key : Key, key.name ∉ names → c.AtDefault key) :
      IsSpelledBy c (.object members none)
  /-- The first fields in their own order. -/
  | array {written leftOut : List Key} {items : List Outline} (hkeys : Key.all = written ++ leftOut)
      (hitems : List.Forall₂ (fun key item => (c.fieldJson key).IsShownBy item) written items)
      (hleftOut : ∀ key ∈ leftOut, c.AtDefault key) : IsSpelledBy c (.array items none)

/-! ## Reading fields -/

theorem readPort_eq {port : Option UInt16} {outline : Outline}
    (h : (portJson port).IsShownBy outline) :
    outline.readOptional Outline.readUnsigned16 = .ok port := by
  cases port with
  | none =>
    cases h
    rfl
  | some port =>
    refine h.readOptional_eq nofun ?_
    have hport := port.toNat_lt
    have hrange : (JsonNumber.whole (portNumber port)).within 0 65535 .unsigned16 =
        .ok (portNumber port) :=
      if_pos ⟨Int.natCast_nonneg _, by show (port.toNat : Int) ≤ 65535; omega⟩
    cases h with
    | number h =>
      rw [Outline.readUnsigned16, h]
      simp only [hrange]
      exact congrArg Except.ok UInt16.ofNat_toNat

theorem readOptions_eq {options : Sorted String} {outline : Outline}
    (h : (Json.object (options.entries.map fun o => (o.1, .string o.2))).IsShownBy outline) :
    outline.readStringMap = .ok options := by
  cases h with
  | @object _ written outlines hperm h =>
    have hpairs : List.Forall₂ (fun member pair => member = (pair.1, .string pair.2))
        (options.entries.map fun o => (o.1, Json.string o.2)) options.entries :=
      List.forall₂_map_left_iff.mpr (List.forall₂_same.mpr fun _ _ => rfl)
    obtain ⟨pairs, hwritten, hperm⟩ := List.perm_comp_forall₂ hperm hpairs
    rw [Outline.readStringMap, Outline.readStringMembers_eq hwritten h]
    exact congrArg Except.ok (Sorted.ofList_of_perm hperm)

namespace Key

theorem mem_all (key : Key) : key ∈ all := by
  cases key <;> decide

theorem name_injective {key other : Key} (h : key.name = other.name) : key = other := by
  revert h
  cases key <;> cases other <;> decide

theorem ofName?_name (key : Key) : ofName? key.name = some key := by
  cases key <;> rfl

theorem ofName?_eq_none {name : String} (h : ∀ key : Key, key.name ≠ name) : ofName? name = none :=
  List.find?_eq_none.mpr fun key _ => by simpa using h key

end Key

namespace Gathered

/-- What has been read of a configuration when the given fields have come by. -/
def ofFields (c : Config) (read : List Key) : Gathered where
  driver := if .driver ∈ read then some c.driver else none
  host := if .host ∈ read then some c.host else none
  port := if .port ∈ read then some c.port else none
  dbname := if .dbname ∈ read then some c.dbname else none
  user := if .user ∈ read then some c.user else none
  password := if .password ∈ read then some c.password else none
  options := if .options ∈ read then some c.options else none

variable {c : Config} {read : List Key}

theorem has_ofFields (key : Key) : (ofFields c read).has key = true ↔ key ∈ read := by
  cases key <;> simp [has, ofFields]

/-- A field that is read has come by. -/
theorem read_ofFields {key : Key} {value : Outline} (h : (c.fieldJson key).IsShownBy value) :
    (ofFields c read).read key value = .ok (ofFields c (key :: read)) := by
  cases key with
  | driver | dbname =>
    rw [Gathered.read, h.readString_eq]
    exact congrArg Except.ok (by simp [ofFields])
  | host | user | password =>
    rw [Gathered.read, h.readOptional_readString_eq]
    exact congrArg Except.ok (by simp [ofFields])
  | port =>
    rw [Gathered.read, readPort_eq h]
    exact congrArg Except.ok (by simp [ofFields])
  | options =>
    rw [Gathered.read, readOptions_eq h]
    exact congrArg Except.ok (by simp [ofFields])

/-- Where only fields at their defaults have not come by, the configuration is complete. -/
theorem complete_ofFields (h : ∀ key, key ∉ read → c.AtDefault key) :
    (ofFields c read).complete = .ok c := by
  have hdriver : Key.driver ∈ read := Classical.byContradiction fun hnot => h _ hnot
  have hdbname : Key.dbname ∈ read := Classical.byContradiction fun hnot => h _ hnot
  have hdefault : ∀ {α : Type} {key : Key} {x default : α}, (key ∉ read → x = default) →
      (if key ∈ read then some x else none).getD default = x := by
    intro α key x default hx
    split
    · rfl
    · next hnot => exact (hx hnot).symm
  simp only [complete, ofFields, if_pos hdriver, if_pos hdbname]
  simp only [hdefault (h .host), hdefault (h .port), hdefault (h .user), hdefault (h .password),
    hdefault (h .options)]
  rfl

/-- A member of which the field has not come by is read. -/
theorem readMembers_cons {name : String} {member : Literal × Outline} (h : c.HasMember name member)
    (hnew : ∀ key : Key, key.name = name → key ∉ read) (members : List (Literal × Outline)) :
    ∃ known,
      (ofFields c read).readMembers (member :: members) = (ofFields c known).readMembers members ∧
        ∀ key, key ∈ known ↔ key ∈ read ∨ key.name = name := by
  cases h with
  | @field key literal value hname hvalue =>
    refine ⟨key :: read, ?_, fun other => ?_⟩
    · have hhas : (ofFields c read).has key = false :=
        Bool.eq_false_iff.mpr fun h => hnew key rfl ((has_ofFields key).mp h)
      rw [readMembers, hname]
      simp only [ReadFault.ofText, Except.mapError, bind, Except.bind, Key.ofName?_name, hhas,
        read_ofFields hvalue]
      rfl
    · rw [List.mem_cons, or_comm]
      exact or_congr_right ⟨fun h => h ▸ rfl, Key.name_injective⟩
  | @other name literal value hname hother hvalue =>
    refine ⟨read, ?_, fun key => ⟨.inl, fun h => h.resolve_right (hother key)⟩⟩
    rw [readMembers, hname]
    simp only [ReadFault.ofText, Except.mapError, bind, Except.bind, Key.ofName?_eq_none hother,
      hvalue.passOver_eq]

/-- Members are read in any order, each field of them once. -/
theorem readMembers_ofFields {names : List String} {members : List (Literal × Outline)}
    (h : List.Forall₂ c.HasMember names members) (hnew : ∀ key ∈ read, key.name ∉ names)
    (hdistinct : ∀ key : Key, names.count key.name ≤ 1) :
    ∃ known, (ofFields c read).readMembers members = .ok (ofFields c known) ∧
      ∀ key, key ∈ known ↔ key ∈ read ∨ key.name ∈ names := by
  -- No field that has come by is among those that are still to come.
  induction h generalizing read with
  | nil => exact ⟨read, rfl, fun key => by simp⟩
  | @cons name member names members hfirst h ih =>
    obtain ⟨known, hread, hknown⟩ := readMembers_cons hfirst
      (fun key hkey hmem => hnew key hmem (hkey ▸ List.mem_cons_self)) members
    have hlater : ∀ key ∈ known, key.name ∉ names := by
      intro key hmem hlater
      rcases (hknown key).mp hmem with hmem | rfl
      · exact hnew key hmem (List.mem_cons_of_mem _ hlater)
      · have htwice := hdistinct key
        rw [List.count_cons_self] at htwice
        exact absurd (List.count_pos_iff.mpr hlater) (by omega)
    obtain ⟨all, hrest, hall⟩ :=
      ih hlater fun key => Nat.le_trans List.count_le_count_cons (hdistinct key)
    refine ⟨all, hread.trans hrest, fun key => ?_⟩
    rw [hall, hknown, List.mem_cons, or_assoc]

/-- Where an array ends, what is left out has to be what is not required. -/
theorem readItems_nil {leftOut : List Key} (h : ∀ key ∈ leftOut, c.AtDefault key) (position : Nat) :
    (ofFields c read).readItems position none leftOut [] = .ok (ofFields c read) := by
  induction leftOut generalizing position with
  | nil => rfl
  | cons key leftOut ih =>
    obtain ⟨hkey, hrest⟩ := List.forall_mem_cons.mp h
    have hrequired : key.isRequired = false := by
      cases key <;> first | rfl | exact hkey.elim
    rw [readItems, hrequired]
    exact ih hrest _

/-- Items are read as the fields in their own order. -/
theorem readItems_ofFields {written : List Key} {items : List Outline}
    (h : List.Forall₂ (fun key item => (c.fieldJson key).IsShownBy item) written items)
    {leftOut : List Key} (hleftOut : ∀ key ∈ leftOut, c.AtDefault key) (position : Nat) :
    ∃ known, (ofFields c read).readItems position none (written ++ leftOut) items =
        .ok (ofFields c known) ∧
      ∀ key, key ∈ known ↔ key ∈ read ∨ key ∈ written := by
  induction h generalizing read position with
  | nil => exact ⟨read, readItems_nil hleftOut position, fun key => by simp⟩
  | @cons key item written items hfirst h ih =>
    obtain ⟨known, hread, hknown⟩ := @ih (key :: read) (position + 1)
    refine ⟨known, ?_, fun other => ?_⟩
    · rw [List.cons_append, readItems, read_ofFields hfirst]
      exact hread
    · rw [hknown, List.mem_cons, List.mem_cons, or_left_comm, or_assoc]

end Gathered

/-! ## Spellings -/

theorem ofOutline_of_isSpelledBy {c : Config} {outline : Outline} (h : c.IsSpelledBy outline) :
    ofOutline outline = .ok c := by
  cases h with
  | object hmembers hdistinct hleftOut =>
    obtain ⟨known, hread, hknown⟩ :=
      @Gathered.readMembers_ofFields c [] _ _ hmembers nofun hdistinct
    have hcomplete := @Gathered.complete_ofFields c known fun key hkey =>
      hleftOut key fun hname => hkey ((hknown key).mpr (.inr hname))
    change Gathered.empty.readMembers _ = _ at hread
    rw [ofOutline, hread]
    exact congrArg (Except.mapError ReadFault.data) hcomplete
  | @array written leftOut items hkeys hitems hleftOut =>
    obtain ⟨known, hread, hknown⟩ := @Gathered.readItems_ofFields c [] _ _ hitems _ hleftOut 0
    have hcomplete := @Gathered.complete_ofFields c known fun key hkey => by
      have hkeys : key ∈ written ++ leftOut := hkeys ▸ key.mem_all
      rcases List.mem_append.mp hkeys with hmem | hmem
      · exact absurd ((hknown key).mpr (.inr hmem)) hkey
      · exact hleftOut key hmem
    change Gathered.empty.readItems _ _ _ _ = _ at hread
    rw [ofOutline, hkeys, hread]
    exact congrArg (Except.mapError ReadFault.data) hcomplete

/-! ## The written form -/

theorem toJson_eq (c : Config) : c.toJson = Json.ofMembers c.fieldMembers := by
  have hoptions : Json.ofMembers (c.options.entries.map fun o => (o.1, Json.string o.2)) =
      c.fieldJson .options :=
    Json.ofMembers_of_increasing (List.pairwise_map.mpr c.options.increasing)
  rw [toJson, hoptions]
  rfl

theorem nodup_fieldMembers (c : Config) : (c.fieldMembers.map Prod.fst).Nodup := by
  rw [fieldMembers, List.map_map]
  exact (by decide : (Key.all.map Key.name).Nodup)

theorem hasWholeNumbers_fieldJson (c : Config) (key : Key) : (c.fieldJson key).HasWholeNumbers := by
  have htext : ∀ text, (optionalText text).HasWholeNumbers := by
    rintro (_ | s)
    · exact .null
    · exact .string s
  cases key with
  | driver | dbname => exact .string _
  | host | user | password => exact htext _
  | port =>
    rw [fieldJson]
    cases c.port with
    | none => exact .null
    | some port => exact .whole _
  | options =>
    refine .object fun member hmember => ?_
    obtain ⟨o, -, rfl⟩ := List.mem_map.mp hmember
    exact .string _

/-- The text of a field is read as a member for it. -/
theorem exists_memberReadsAs (c : Config) (key : Key) :
    ∃ member, c.HasMember key.name member ∧ Outline.MemberReadsAs
      (Json.renderString key.name ++ ":" ++ (c.fieldJson key).render) member := by
  obtain ⟨value, hshown, hvalue⟩ := (c.hasWholeNumbers_fieldJson key).exists_readsAs
  obtain ⟨name, -, hname, hread⟩ := Outline.exists_memberReadsAs key.name hvalue
  exact ⟨(name, value), .field hname hshown, hread⟩

theorem ofString_eq {c : Config} {text : String}
    (htrailing : (JsonText.ofString text).trailing = false)
    (h : c.IsSpelledBy (JsonText.ofString text).outline) : ofString text = .ok c := by
  rw [ofString]
  simp only [ofOutline_of_isSpelledBy h, htrailing]
  rfl

theorem IsSpelledBy.of_read {c : Config} {text : String} {outline : Outline}
    (h : c.IsSpelledBy outline) (hread : JsonText.ofString text = ⟨outline, false⟩) :
    (JsonText.ofString text).trailing = false ∧ c.IsSpelledBy (JsonText.ofString text).outline := by
  rw [hread]
  exact ⟨rfl, h⟩

/-- An object with all fields, in any order, is a spelling wherever it stands. -/
theorem IsSpelledBy.of_isShownBy {c : Config} {members : List (String × Json)} {outline : Outline}
    (hperm : members.Perm c.fieldMembers) (h : (Json.object members).IsShownBy outline) :
    c.IsSpelledBy outline := by
  cases h with
  | @object _ written outlines hwritten h =>
    have hfields := hwritten.trans hperm
    have hkeys : ∀ member ∈ written, ∃ key : Key, (key.name, c.fieldJson key) = member := by
      intro member hmember
      obtain ⟨key, -, hkey⟩ := List.mem_map.mp (hfields.mem_iff.mp hmember)
      exact ⟨key, hkey⟩
    have hmembers : List.Forall₂ (fun member => c.HasMember member.1) written outlines := by
      refine ((List.forall₂_and_left _ _).mpr ⟨hkeys, h⟩).imp fun member read => ?_
      rintro ⟨⟨key, rfl⟩, hshown⟩
      cases hshown with
      | mk hname hvalue => exact .field hname hvalue
    have hnames : (written.map Prod.fst).Nodup :=
      (hfields.map Prod.fst).nodup_iff.mpr c.nodup_fieldMembers
    refine .object (List.forall₂_map_left_iff.mpr hmembers)
      (fun key => List.nodup_iff_count_le_one.mp hnames _) fun key hkey => ?_
    have hmem : (key.name, c.fieldJson key) ∈ written :=
      hfields.mem_iff.mpr (List.mem_map.mpr ⟨key, key.mem_all, rfl⟩)
    exact absurd (List.mem_map.mpr ⟨_, hmem, rfl⟩) hkey

/-- So is an array with the first fields, where the fields behind them are at their defaults. -/
theorem IsSpelledBy.of_isShownBy_array {c : Config} {written leftOut : List Key} {outline : Outline}
    (hkeys : Key.all = written ++ leftOut) (hleftOut : ∀ key ∈ leftOut, c.AtDefault key)
    (h : (Json.array (written.map c.fieldJson)).IsShownBy outline) : c.IsSpelledBy outline := by
  cases h with
  | array h => exact .array hkeys (List.forall₂_map_left_iff.mp h) hleftOut

/-- What is written for all fields in any order is read as the configuration. -/
theorem ofString_render {c : Config} {members : List (String × Json)}
    (hperm : members.Perm c.fieldMembers) : ofString (Json.object members).render = .ok c := by
  have hwhole : (Json.object members).HasWholeNumbers := by
    refine .object fun member hmember => ?_
    obtain ⟨key, -, rfl⟩ := List.mem_map.mp (hperm.mem_iff.mp hmember)
    exact c.hasWholeNumbers_fieldJson key
  obtain ⟨outline, hshown, hread⟩ := hwhole.exists_ofString
  obtain ⟨htrailing, houtline⟩ := (IsSpelledBy.of_isShownBy hperm hshown).of_read hread
  exact ofString_eq htrailing houtline

/-- **All spellings of a configuration mean the same.**  What is written for a configuration is read
as it, with its fields in the order of their names, in their own order or in any other; and so is every
text that spells it. -/
theorem ofString_of_isSpelledBy (c : Config) :
    ofString c.toJson.render = .ok c ∧
    (∀ members, members.Perm c.fieldMembers → ofString (Json.object members).render = .ok c) ∧
    ∀ text, (JsonText.ofString text).trailing = false →
      c.IsSpelledBy (JsonText.ofString text).outline → ofString text = .ok c := by
  refine ⟨?_, fun _ => ofString_render, fun _ => ofString_eq⟩
  rw [toJson_eq]
  exact ofString_render (@perm_foldl_insertSorted _ [] _ c.nodup_fieldMembers)

/-- An object with an unknown member, with a field as null and others left out, and an array without
the last three fields. -/
theorem ofString_of_nested_object_and_short_array :
    let object := Json.object [("note", .array [.object [("driver", .null)], .bool true]),
      ("dbname", .string "a\"b"), ("host", .null), ("driver", .string "pgsql")]
    let array := Json.array
      [.string "pgsql", .string "localhost", .whole (portNumber 5432), .string "a\"b"]
    let c : Config := .of "pgsql" "a\"b"
    let c' : Config := { c with host := some "localhost", port := some 5432 }
    (object.render = "\x7b\"note\":[\x7b\"driver\":null\x7d,true],\"dbname\":\"a\\\"b\"," ++
        "\"host\":null,\"driver\":\"pgsql\"\x7d" ∧
      (JsonText.ofString object.render).trailing = false ∧
      c.IsSpelledBy (JsonText.ofString object.render).outline ∧ ofString object.render = .ok c) ∧
    array.render = "[\"pgsql\",\"localhost\",5432,\"a\\\"b\"]" ∧
      (JsonText.ofString array.render).trailing = false ∧
      c'.IsSpelledBy (JsonText.ofString array.render).outline ∧ ofString array.render = .ok c' := by
  intro object array c c'
  constructor
  · obtain ⟨deep, hdeep, -, hdeepReads⟩ := Outline.exists_memberReadsAs "driver" Outline.readsAs_null
    obtain ⟨note, -, hnote, hnoteReads⟩ := Outline.exists_memberReadsAs "note"
      (Outline.readsAs_array (.cons (Outline.readsAs_object (.cons hdeepReads .nil))
        (.cons (Outline.readsAs_bool true) .nil)))
    obtain ⟨dbname, hdbname, hdbnameReads⟩ := c.exists_memberReadsAs .dbname
    obtain ⟨host, hhost, hhostReads⟩ := c.exists_memberReadsAs .host
    obtain ⟨driver, hdriver, hdriverReads⟩ := c.exists_memberReadsAs .driver
    have hreads : Outline.ReadsAs object.render _ := Outline.readsAs_object
      (.cons hnoteReads (.cons hdbnameReads (.cons hhostReads (.cons hdriverReads .nil))))
    have hnote :
        c.HasMember "note" (note, .array [.object [(deep, .null)] none, .bool true] none) := by
      refine .other hnote (fun key => by cases key <;> decide) (.array ?_)
      refine List.forall_mem_cons.mpr ⟨.object ?_ ?_, List.forall_mem_singleton.mpr (.bool true)⟩
      · exact List.forall_mem_singleton.mpr hdeep
      · exact List.forall_mem_singleton.mpr .null
    have hleftOut : ∀ key : Key,
        key.name ∉ ["note", "dbname", "host", "driver"] → c.AtDefault key := by
      intro key hkey
      cases key with
      | driver | dbname => exact absurd (by decide) hkey
      | host | port | user | password | options => rfl
    have hspelled := IsSpelledBy.object
      (.cons hnote (.cons hdbname (.cons hhost (.cons hdriver .nil))))
      (fun key => by cases key <;> decide) hleftOut
    obtain ⟨htrailing, houtline⟩ := hspelled.of_read hreads.ofString_eq
    exact ⟨by decide +kernel, htrailing, houtline,
      (ofString_of_isSpelledBy c).2.2 object.render htrailing houtline⟩
  · let written : List Key := [.driver, .host, .port, .dbname]
    have hwhole : (Json.array (written.map c'.fieldJson)).HasWholeNumbers :=
      .array (List.forall_mem_map.mpr fun key _ => c'.hasWholeNumbers_fieldJson key)
    obtain ⟨outline, hshown, hread⟩ := hwhole.exists_ofString
    have hleftOut : ∀ key ∈ [Key.user, .password, .options], c'.AtDefault key := by
      simp only [List.forall_mem_cons]
      exact ⟨rfl, rfl, rfl, nofun⟩
    have hspelled : c'.IsSpelledBy outline := .of_isShownBy_array rfl hleftOut hshown
    obtain ⟨htrailing, houtline⟩ := hspelled.of_read hread
    exact ⟨by decide +kernel, htrailing, houtline,
      (ofString_of_isSpelledBy c').2.2 array.render htrailing houtline⟩

end Config

end SqlBuilder
