/-!
# Maps in the order of their names

Connection options and the members of a JSON object are kept in increasing order of their names,
compared code point by code point.  Writing a name that is there already replaces its value.

Main statements: `insertSorted_increasing`, a write keeps the order, and `perm_insertSorted`, a new
name comes with its pair and leaves the others alone.
-/
namespace SqlBuilder

variable {α : Type}

/-- Writes a pair into a list of pairs in increasing order of names. -/
def insertSorted (key : String) (value : α) : List (String × α) → List (String × α)
  | [] => [(key, value)]
  | entry :: rest =>
      if key < entry.1 then (key, value) :: entry :: rest
      else if key = entry.1 then (key, value) :: rest
      else entry :: insertSorted key value rest

/-- The names of a list of pairs grow strictly. -/
def Increasing (entries : List (String × α)) : Prop :=
  entries.Pairwise fun a b => a.1 < b.1

theorem mem_insertSorted {key : String} {value : α} {entries : List (String × α)}
    {entry : String × α} (h : entry ∈ insertSorted key value entries) :
    entry = (key, value) ∨ entry ∈ entries := by
  induction entries with
  | nil => simpa [insertSorted] using h
  | cons first rest ih =>
    simp only [insertSorted] at h
    split at h
    · simpa using h
    · split at h
      · rcases List.mem_cons.mp h with h | h
        · exact .inl h
        · exact .inr (List.mem_cons_of_mem _ h)
      · rcases List.mem_cons.mp h with h | h
        · exact .inr (h ▸ List.mem_cons_self)
        · rcases ih h with h | h
          · exact .inl h
          · exact .inr (List.mem_cons_of_mem _ h)

theorem insertSorted_increasing {key : String} {value : α} {entries : List (String × α)}
    (h : Increasing entries) : Increasing (insertSorted key value entries) := by
  induction entries with
  | nil => simp [insertSorted, Increasing]
  | cons first rest ih =>
    have hfirst := (List.pairwise_cons.mp h).1
    have hrest := (List.pairwise_cons.mp h).2
    simp only [insertSorted]
    split
    · next hlt =>
      refine List.pairwise_cons.mpr ⟨fun entry he => ?_, h⟩
      rcases List.mem_cons.mp he with he | he
      · exact he ▸ hlt
      · exact String.lt_trans hlt (hfirst entry he)
    · split
      · next heq => exact List.pairwise_cons.mpr ⟨fun entry he => heq ▸ hfirst entry he, hrest⟩
      · next hlt hne =>
        refine List.pairwise_cons.mpr ⟨fun entry he => ?_, ih hrest⟩
        rcases mem_insertSorted he with he | he
        · subst he
          show first.1 < key
          grind
        · exact hfirst entry he

/-- Writing a new name adds its pair and changes nothing else. -/
theorem perm_insertSorted {key : String} (value : α) {entries : List (String × α)}
    (h : key ∉ entries.map Prod.fst) :
    (insertSorted key value entries).Perm ((key, value) :: entries) := by
  induction entries with
  | nil => exact .refl _
  | cons first rest ih =>
    rw [List.map_cons, List.mem_cons, not_or] at h
    simp only [insertSorted, if_neg h.1]
    split
    · exact .refl _
    · exact ((ih h.2).cons first).trans (.swap _ _ rest)

/-- A map that keeps its names in increasing order. -/
structure Sorted (α : Type) where
  entries : List (String × α)
  /-- The names grow strictly, so none occurs twice. -/
  increasing : Increasing entries

namespace Sorted

@[ext] theorem ext {m n : Sorted α} (h : m.entries = n.entries) : m = n := by
  cases m
  cases n
  simp only [mk.injEq]
  exact h

/-- The map without names. -/
def empty : Sorted α := ⟨[], .nil⟩

instance : Inhabited (Sorted α) := ⟨empty⟩

def isEmpty (m : Sorted α) : Bool := m.entries.isEmpty

/-- Writes one value. -/
def insert (m : Sorted α) (key : String) (value : α) : Sorted α :=
  ⟨insertSorted key value m.entries, insertSorted_increasing m.increasing⟩

/-- The map of pairs written one after the other into the empty map. -/
def ofList (pairs : List (String × α)) : Sorted α :=
  pairs.foldl (fun m pair => m.insert pair.1 pair.2) empty

end Sorted

end SqlBuilder
