import SqlBuilder.Map.Ordered

/-!
# Writing lists of pairs into ordered maps

A statement's bindings are made by writes, one after the other.  What is held under a name after a
list of writes is the value of the last write to it, or else what was held before
(`get?_insertAll`), while its place is that of the first one (`keys_insertAll`).  Writing another
map entry by entry takes over whatever that map holds (`get?_extend`), since none of its names comes
twice.  Names in order and what they hold are all that there is to a map (`eq_of_keys_eq`), so it
makes no difference whether pairs are written one by one or make a map of their own that is then
written (`extend_ofList`).

`map` changes every value in its place.  It commutes with all writes, so names, and the order of
names, never depend on values.
-/
namespace SqlBuilder.Ordered

variable {α β : Type}

/-! ## The last write wins -/

theorem lookup_eq_none_of_not_mem {key : String} {pairs : List (String × α)}
    (h : key ∉ pairs.map Prod.fst) : pairs.lookup key = none := by
  rw [List.lookup_eq_none_iff]
  intro pair hpair
  refine bne_iff_ne.mpr fun e => h ?_
  exact List.mem_map.mpr ⟨pair, hpair, e.symm⟩

theorem lookup_reverse_of_nodup {entries : List (String × α)}
    (h : (entries.map Prod.fst).Nodup) (key : String) :
    entries.reverse.lookup key = entries.lookup key := by
  induction entries with
  | nil => rfl
  | cons entry rest ih =>
    obtain ⟨name, held⟩ := entry
    rw [List.map_cons, List.nodup_cons] at h
    rw [List.reverse_cons, List.lookup_append, ih h.2, List.lookup_cons]
    by_cases hk : key = name
    · subst hk
      -- In the reversed list the entry comes last, and none before it has its name.
      simp [lookup_eq_none_of_not_mem h.1]
    · simp [List.lookup_cons, beq_false_of_ne hk]

/-- After a list of writes, a name holds the value of the last write to it. -/
theorem get?_insertAll (m : Ordered α) (pairs : List (String × α)) (key : String) :
    (m.insertAll pairs).get? key = (pairs.reverse.lookup key).or (m.get? key) := by
  induction pairs generalizing m with
  | nil => rfl
  | cons pair pairs ih =>
    rw [insertAll_cons, ih, get?_insert, List.reverse_cons, List.lookup_append, Option.or_assoc]
    obtain ⟨name, value⟩ := pair
    by_cases hk : key = name
    · simp [hk]
    · simp [hk, List.lookup_cons, beq_false_of_ne hk]

theorem get?_ofList (pairs : List (String × α)) (key : String) :
    (ofList pairs).get? key = pairs.reverse.lookup key := by
  rw [ofList, get?_insertAll, get?_empty, Option.or_none]

/-- Of several writes to one name, the last is held. -/
theorem get?_insertAll_of_last (m : Ordered α) (before : List (String × α)) (key : String)
    (value : α) {after : List (String × α)} (h : key ∉ after.map Prod.fst) :
    (m.insertAll (before ++ (key, value) :: after)).get? key = some value := by
  have hafter : after.reverse.lookup key = none :=
    lookup_eq_none_of_not_mem (by rwa [List.map_reverse, List.mem_reverse])
  rw [get?_insertAll, List.reverse_append, List.reverse_cons, List.append_assoc,
    List.lookup_append, hafter, Option.none_or, List.singleton_append, List.lookup_cons_self,
    Option.some_or]

/-- A name that is not written to holds what it held. -/
theorem get?_insertAll_of_not_mem (m : Ordered α) {pairs : List (String × α)} {key : String}
    (h : key ∉ pairs.map Prod.fst) : (m.insertAll pairs).get? key = m.get? key := by
  have hnone : pairs.reverse.lookup key = none :=
    lookup_eq_none_of_not_mem (by rwa [List.map_reverse, List.mem_reverse])
  rw [get?_insertAll, hnone, Option.none_or]

/-- Of several pairs with one name, the last is held. -/
theorem get?_ofList_of_last (before : List (String × α)) (key : String) (value : α)
    {after : List (String × α)} (h : key ∉ after.map Prod.fst) :
    (ofList (before ++ (key, value) :: after)).get? key = some value :=
  get?_insertAll_of_last empty before key value h

/-- The entries of another map are written over the ones that are there. -/
theorem get?_extend (m n : Ordered α) (key : String) :
    (m.extend n).get? key = (n.get? key).or (m.get? key) := by
  rw [extend, get?_insertAll, lookup_reverse_of_nodup n.nodup]
  rfl

/-! ## The first write places -/

theorem eraseDups_of_nodup {names : List String} (h : names.Nodup) : names.eraseDups = names := by
  induction names with
  | nil => rfl
  | cons name rest ih =>
    obtain ⟨hname, hrest⟩ := List.nodup_cons.mp h
    have hkept : (rest.filter fun other => !other == name) = rest := by
      refine List.filter_eq_self.mpr fun other hother => ?_
      have hne : other ≠ name := fun e => hname (e ▸ hother)
      simpa using hne
    rw [List.eraseDups_cons, hkept, ih hrest]

theorem eraseDups_sublist (names : List String) : names.eraseDups.Sublist names := by
  match names with
  | [] => exact .slnil
  | name :: rest =>
    rw [List.eraseDups_cons]
    exact ((eraseDups_sublist _).trans List.filter_sublist).cons_cons name
termination_by names.length
decreasing_by exact Nat.lt_succ_of_le (List.length_filter_le _ rest)

theorem eraseDups_concat (names : List String) (name : String) :
    (names ++ [name]).eraseDups =
      if name ∈ names then names.eraseDups else names.eraseDups ++ [name] := by
  rw [List.eraseDups_append, List.cons_removeAll]
  by_cases h : name ∈ names
  · simp [h]
  · simp [h, List.eraseDups_cons]

/-- After a list of writes, the names stand in the order in which each was first written. -/
theorem keys_insertAll (m : Ordered α) (pairs : List (String × α)) :
    (m.insertAll pairs).keys = (m.keys ++ pairs.map Prod.fst).eraseDups := by
  induction pairs generalizing m with
  | nil =>
    have hnodup : m.keys.Nodup := m.nodup
    rw [insertAll_nil, List.map_nil, List.append_nil, eraseDups_of_nodup hnodup]
  | cons pair pairs ih =>
    rw [insertAll_cons, ih, keys_insert, List.map_cons]
    by_cases hk : pair.1 ∈ m.keys
    · rw [if_pos hk, List.eraseDups_append, List.eraseDups_append, List.cons_removeAll]
      simp [hk]
    · rw [if_neg hk, List.append_assoc, List.singleton_append]

/-- The names that were there keep their places, and the new ones follow in the order in which each
was first written. -/
theorem keys_insertAll_eq_append (m : Ordered α) (pairs : List (String × α)) :
    (m.insertAll pairs).keys =
      m.keys ++ ((pairs.map Prod.fst).filter (· ∉ m.keys)).eraseDups := by
  have hnodup : m.keys.Nodup := m.nodup
  have hnew : (pairs.map Prod.fst).removeAll m.keys = (pairs.map Prod.fst).filter (· ∉ m.keys) :=
    List.filter_congr fun key _ => by simp
  rw [keys_insertAll, List.eraseDups_append, eraseDups_of_nodup hnodup, hnew]

theorem keys_extend (m n : Ordered α) : (m.extend n).keys = (m.keys ++ n.keys).eraseDups :=
  keys_insertAll m n.entries

theorem keys_ofList (pairs : List (String × α)) :
    (ofList pairs).keys = (pairs.map Prod.fst).eraseDups := by
  rw [ofList, keys_insertAll, keys_empty, List.nil_append]

/-- No pair is lost exactly if their names are distinct. -/
theorem size_ofList_eq_length_iff (pairs : List (String × α)) :
    (ofList pairs).size = pairs.length ↔ (pairs.map Prod.fst).Nodup := by
  have hsize : (ofList pairs).size = (pairs.map Prod.fst).eraseDups.length := by
    rw [← keys_ofList, keys, List.length_map, size]
  have hlength : (pairs.map Prod.fst).length = pairs.length := List.length_map Prod.fst
  rw [hsize, ← hlength]
  constructor
  · intro h
    have hnodup : (ofList pairs).keys.Nodup := (ofList pairs).nodup
    rwa [keys_ofList, (eraseDups_sublist _).eq_of_length h] at hnodup
  · intro h
    rw [eraseDups_of_nodup h]

theorem putEntry_of_not_mem {key : String} (value : α) {entries : List (String × α)}
    (h : key ∉ entries.map Prod.fst) : putEntry key value entries = entries ++ [(key, value)] := by
  induction entries with
  | nil => rfl
  | cons entry rest ih =>
    rw [List.map_cons, List.mem_cons, not_or] at h
    rw [putEntry, if_neg fun e => h.1 e.symm, ih h.2]
    rfl

/-- Names that are all new go to the end, each with its value. -/
theorem entries_insertAll {m : Ordered α} {pairs : List (String × α)}
    (h : (m.keys ++ pairs.map Prod.fst).Nodup) :
    (m.insertAll pairs).entries = m.entries ++ pairs := by
  induction pairs generalizing m with
  | nil => exact (List.append_nil _).symm
  | cons pair pairs ih =>
    have hnew : pair.1 ∉ m.keys := by
      intro hmem
      exact (List.nodup_append.mp h).2.2 _ hmem _ List.mem_cons_self rfl
    have hkeys : ((m.insert pair.1 pair.2).keys ++ pairs.map Prod.fst).Nodup := by
      rw [keys_insert, if_neg hnew, List.append_assoc]
      exact h
    have hentries : (m.insert pair.1 pair.2).entries = m.entries ++ [pair] :=
      putEntry_of_not_mem pair.2 hnew
    rw [insertAll_cons, ih hkeys, hentries, List.append_assoc]
    rfl

theorem entries_ofList {pairs : List (String × α)} (h : (pairs.map Prod.fst).Nodup) :
    (ofList pairs).entries = pairs :=
  entries_insertAll (m := empty) h

/-! ## Writes before and behind -/

/-- Every entry is found under its name. -/
theorem get?_of_mem {m : Ordered α} {entry : String × α} (h : entry ∈ m.entries) :
    m.get? entry.1 = some entry.2 := by
  obtain ⟨before, after, hsplit⟩ := List.append_of_mem h
  refine List.lookup_eq_some_iff.mpr ⟨before, after, hsplit, fun other hother => ?_⟩
  have hnodup := m.nodup
  rw [hsplit, List.map_append, List.map_cons] at hnodup
  have hne := (List.nodup_append.mp hnodup).2.2 _ (List.mem_map_of_mem hother) _ List.mem_cons_self
  exact bne_iff_ne.mpr hne.symm

/-- **A map is its names in order and what they hold.** -/
theorem eq_of_keys_eq {m n : Ordered α} (hkeys : m.keys = n.keys)
    (hget : ∀ key, m.get? key = n.get? key) : m = n := by
  have hentries : ∀ o : Ordered α,
      o.entries.map (fun entry => (entry.1, some entry.2)) =
        o.keys.map fun key => (key, o.get? key) := by
    intro o
    rw [keys, List.map_map]
    exact List.map_congr_left fun entry hentry => congrArg (entry.1, ·) (get?_of_mem hentry).symm
  have hinjective : ∀ x y : String × α, (x.1, some x.2) = (y.1, some y.2) → x = y := by
    intro x y h
    obtain ⟨hname, hheld⟩ := Prod.mk.inj h
    exact Prod.ext hname (Option.some.inj hheld)
  refine ext ((List.map_inj_right hinjective).mp ?_)
  rw [hentries, hentries, hkeys]
  exact List.map_congr_left fun key _ => congrArg (key, ·) (hget key)

/-- A pair that was written into another map is written behind that map's entries. -/
theorem extend_insert (m n : Ordered α) (key : String) (value : α) :
    m.extend (n.insert key value) = (m.extend n).insert key value := by
  have hmem : key ∈ (m.extend n).keys ↔ key ∈ m.keys ++ n.keys := by
    rw [keys_extend, List.mem_eraseDups]
  refine eq_of_keys_eq ?_ fun other => ?_
  · rw [keys_extend, keys_insert, keys_insert]
    simp only [hmem]
    by_cases hn : key ∈ n.keys
    · rw [if_pos hn, if_pos (List.mem_append_right _ hn), keys_extend]
    · rw [if_neg hn, ← List.append_assoc, eraseDups_concat, keys_extend]
  · rw [get?_extend, get?_insert, get?_insert, get?_extend]
    by_cases h : other = key
    · rw [if_pos h, if_pos h, Option.some_or]
    · rw [if_neg h, if_neg h]

theorem extend_insertAll (m n : Ordered α) (pairs : List (String × α)) :
    m.extend (n.insertAll pairs) = (m.extend n).insertAll pairs := by
  induction pairs generalizing n with
  | nil => rfl
  | cons pair pairs ih => rw [insertAll_cons, ih, extend_insert, insertAll_cons]

/-- **Pairs may be gathered in a map of their own** before they are written. -/
theorem extend_ofList (m : Ordered α) (pairs : List (String × α)) :
    m.extend (ofList pairs) = m.insertAll pairs :=
  extend_insertAll m empty pairs

theorem ofList_append (pairs more : List (String × α)) :
    ofList (pairs ++ more) = (ofList pairs).extend (ofList more) := by
  rw [extend_ofList, ofList, ofList, insertAll_append]

/-! ## Changing every value -/

/-- The map with every value changed in its place. -/
def map (f : α → β) (m : Ordered α) : Ordered β :=
  ⟨m.entries.map fun entry => (entry.1, f entry.2), by
    rw [List.map_map]
    exact m.nodup⟩

@[simp] theorem keys_map (f : α → β) (m : Ordered α) : (m.map f).keys = m.keys :=
  List.map_map

theorem get?_map (f : α → β) (m : Ordered α) (key : String) :
    (m.map f).get? key = (m.get? key).map f := by
  show (m.entries.map fun entry => (entry.1, f entry.2)).lookup key = (m.entries.lookup key).map f
  induction m.entries with
  | nil => rfl
  | cons entry rest ih =>
    rw [List.map_cons, List.lookup_cons, List.lookup_cons, ih]
    cases key == entry.1 <;> rfl

theorem map_putEntry (f : α → β) (key : String) (value : α) (entries : List (String × α)) :
    (putEntry key value entries).map (fun entry => (entry.1, f entry.2)) =
      putEntry key (f value) (entries.map fun entry => (entry.1, f entry.2)) := by
  induction entries with
  | nil => rfl
  | cons entry rest ih =>
    by_cases h : entry.1 = key
    · simp [putEntry, h]
    · simp [putEntry, h, ih]

theorem map_insert (f : α → β) (m : Ordered α) (key : String) (value : α) :
    (m.insert key value).map f = (m.map f).insert key (f value) :=
  ext (map_putEntry f key value m.entries)

theorem map_insertAll (f : α → β) (m : Ordered α) (pairs : List (String × α)) :
    (m.insertAll pairs).map f =
      (m.map f).insertAll (pairs.map fun pair => (pair.1, f pair.2)) := by
  induction pairs generalizing m with
  | nil => rfl
  | cons pair pairs ih =>
    rw [insertAll_cons, ih, map_insert, List.map_cons, insertAll_cons]

theorem map_ofList (f : α → β) (pairs : List (String × α)) :
    (ofList pairs).map f = ofList (pairs.map fun pair => (pair.1, f pair.2)) :=
  map_insertAll f empty pairs

theorem map_extend (f : α → β) (m n : Ordered α) :
    (m.extend n).map f = (m.map f).extend (n.map f) :=
  map_insertAll f m n.entries

end SqlBuilder.Ordered
