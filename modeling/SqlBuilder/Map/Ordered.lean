/-!
# Maps in insertion order

The bindings of a statement and the columns of a row are maps from names that remember the order in
which the names came.  Writing a name that is there already keeps its place and replaces its value;
a new name goes to the end.  Every name occurs once.

Main statements: `keys_insert` says which names a write leaves, in which order, and `get?_insert`
what each of them then holds.
-/
namespace SqlBuilder

variable {α : Type}

/-- Replaces the value under a key where it stands, or appends the pair. -/
def putEntry (key : String) (value : α) : List (String × α) → List (String × α)
  | [] => [(key, value)]
  | entry :: rest =>
      if entry.1 = key then (key, value) :: rest else entry :: putEntry key value rest

theorem keys_putEntry (key : String) (value : α) (entries : List (String × α)) :
    (putEntry key value entries).map Prod.fst =
      if key ∈ entries.map Prod.fst then entries.map Prod.fst
      else entries.map Prod.fst ++ [key] := by
  induction entries with
  | nil => simp [putEntry]
  | cons entry rest ih =>
    by_cases h : entry.1 = key
    · simp [putEntry, h]
    · have h' : ¬ key = entry.1 := fun e => h e.symm
      simp only [putEntry, if_neg h, List.map_cons, ih, List.mem_cons, h', false_or]
      split <;> simp

theorem lookup_putEntry (key other : String) (value : α) (entries : List (String × α)) :
    (putEntry key value entries).lookup other =
      if other = key then some value else entries.lookup other := by
  induction entries with
  | nil =>
    by_cases h : other = key
    · simp [putEntry, h]
    · simp [putEntry, List.lookup_cons, h, beq_false_of_ne h]
  | cons entry rest ih =>
    obtain ⟨name, held⟩ := entry
    by_cases h : name = key <;> by_cases ho : other = name
    · subst h ho
      simp [putEntry]
    · subst h
      simp [putEntry, List.lookup_cons, ho, beq_false_of_ne ho]
    · subst ho
      simp [putEntry, h]
    · simp [putEntry, h, List.lookup_cons, beq_false_of_ne ho, ih]

theorem nodup_keys_putEntry {key : String} {value : α} {entries : List (String × α)}
    (h : (entries.map Prod.fst).Nodup) : ((putEntry key value entries).map Prod.fst).Nodup := by
  rw [keys_putEntry]
  split
  · exact h
  · next hk =>
    refine List.nodup_append.mpr ⟨h, by simp, ?_⟩
    intro a ha b hb hab
    rw [List.mem_singleton] at hb
    exact hk (hb ▸ hab ▸ ha)

/-- A map that keeps its names in the order in which they were first written. -/
structure Ordered (α : Type) where
  entries : List (String × α)
  /-- No name occurs twice. -/
  nodup : (entries.map Prod.fst).Nodup

namespace Ordered

@[ext] theorem ext {m n : Ordered α} (h : m.entries = n.entries) : m = n := by
  cases m
  cases n
  simp only [mk.injEq]
  exact h

/-- The map without names. -/
def empty : Ordered α := ⟨[], by simp⟩

instance : Inhabited (Ordered α) := ⟨empty⟩

/-- The names in order. -/
def keys (m : Ordered α) : List String := m.entries.map Prod.fst

def size (m : Ordered α) : Nat := m.entries.length

def isEmpty (m : Ordered α) : Bool := m.entries.isEmpty

/-- The value under a name. -/
def get? (m : Ordered α) (key : String) : Option α := m.entries.lookup key

/-- Writes one value. -/
def insert (m : Ordered α) (key : String) (value : α) : Ordered α :=
  ⟨putEntry key value m.entries, nodup_keys_putEntry m.nodup⟩

/-- Writes pairs one after the other. -/
def insertAll (m : Ordered α) (pairs : List (String × α)) : Ordered α :=
  pairs.foldl (fun m pair => m.insert pair.1 pair.2) m

/-- The map of pairs written one after the other into the empty map. -/
def ofList (pairs : List (String × α)) : Ordered α := empty.insertAll pairs

/-- Writes every entry of another map. -/
def extend (m n : Ordered α) : Ordered α := m.insertAll n.entries

@[simp] theorem keys_empty : (empty : Ordered α).keys = [] := rfl

@[simp] theorem get?_empty (key : String) : (empty : Ordered α).get? key = none := rfl

/-- A write keeps the names in place and adds a new one at the end. -/
theorem keys_insert (m : Ordered α) (key : String) (value : α) :
    (m.insert key value).keys = if key ∈ m.keys then m.keys else m.keys ++ [key] :=
  keys_putEntry key value m.entries

/-- A write changes what is held under its own name and nothing else. -/
theorem get?_insert (m : Ordered α) (key other : String) (value : α) :
    (m.insert key value).get? other = if other = key then some value else m.get? other :=
  lookup_putEntry key other value m.entries

@[simp] theorem insertAll_nil (m : Ordered α) : m.insertAll [] = m := rfl

@[simp] theorem insertAll_cons (m : Ordered α) (pair : String × α) (pairs : List (String × α)) :
    m.insertAll (pair :: pairs) = (m.insert pair.1 pair.2).insertAll pairs := rfl

theorem insertAll_append (m : Ordered α) (pairs more : List (String × α)) :
    m.insertAll (pairs ++ more) = (m.insertAll pairs).insertAll more :=
  List.foldl_append

end Ordered

end SqlBuilder
