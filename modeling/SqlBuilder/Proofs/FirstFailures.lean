import Mathlib.Data.List.Forall2

/-!
# Going through a list up to the first failure

Columns are read and rows are decoded one after the other, by a step that may fail.  The outcome of
all of them, `List.mapM`, is described without the order in which they are gone through: there are
results exactly if no step fails, and they stand in the order of the list (`mapM_eq_ok_iff`); a
failure is that of an element before which no other fails (`mapM_eq_error_iff`).
-/
namespace SqlBuilder

variable {ε α β : Type} {f : α → Except ε β}

theorem mapM_cons_of_ok {x : α} {y : β} (h : f x = .ok y) (xs : List α) :
    (x :: xs).mapM f = (xs.mapM f).map (y :: ·) := by
  rw [List.mapM_cons, h]
  cases xs.mapM f <;> rfl

theorem mapM_cons_of_error {x : α} {e : ε} (h : f x = .error e) (xs : List α) :
    (x :: xs).mapM f = .error e := by
  rw [List.mapM_cons, h]
  rfl

theorem except_map_eq_ok_iff {γ : Type} {g : β → γ} {outcome : Except ε β} {c : γ} :
    outcome.map g = .ok c ↔ ∃ b, outcome = .ok b ∧ g b = c := by
  cases outcome with
  | error e => exact ⟨nofun, fun ⟨_, h, _⟩ => nomatch h⟩
  | ok b =>
    constructor
    · rintro ⟨⟩
      exact ⟨b, rfl, rfl⟩
    · rintro ⟨_, ⟨⟩, rfl⟩
      rfl

theorem except_map_eq_error_iff {γ : Type} {g : β → γ} {outcome : Except ε β} {e : ε} :
    outcome.map g = .error e ↔ outcome = .error e := by
  cases outcome with
  | ok b => exact ⟨nofun, nofun⟩
  | error other => exact ⟨fun h => by rw [Except.error.inj h], fun h => by rw [h]; rfl⟩

theorem except_bind_eq_ok_iff {γ : Type} {g : β → Except ε γ} {outcome : Except ε β} {c : γ} :
    (outcome >>= g) = .ok c ↔ ∃ b, outcome = .ok b ∧ g b = .ok c := by
  cases outcome with
  | error e => exact ⟨nofun, fun ⟨_, h, _⟩ => nomatch h⟩
  | ok b =>
    constructor
    · exact fun h => ⟨b, rfl, h⟩
    · rintro ⟨_, ⟨⟩, h⟩
      exact h

/-- Results are those of the elements, one for each and in their order. -/
theorem mapM_eq_ok_iff {xs : List α} {ys : List β} :
    xs.mapM f = .ok ys ↔ List.Forall₂ (fun x y => f x = .ok y) xs ys := by
  induction xs generalizing ys with
  | nil =>
    rw [List.forall₂_nil_left_iff]
    exact ⟨fun h => (Except.ok.inj h).symm, fun h => h ▸ rfl⟩
  | cons x xs ih =>
    rw [List.forall₂_cons_left_iff]
    cases hx : f x with
    | error e =>
      rw [mapM_cons_of_error hx]
      exact ⟨nofun, fun ⟨_, _, h, _⟩ => nomatch h⟩
    | ok y =>
      rw [mapM_cons_of_ok hx, except_map_eq_ok_iff]
      constructor
      · rintro ⟨rest, hrest, rfl⟩
        exact ⟨y, rest, rfl, ih.mp hrest, rfl⟩
      · rintro ⟨_, rest, hy, hrest, rfl⟩
        cases hy
        exact ⟨rest, ih.mpr hrest, rfl⟩

/-- There are results if no element fails. -/
theorem exists_mapM_eq_ok_iff {xs : List α} :
    (∃ ys, xs.mapM f = .ok ys) ↔ ∀ x ∈ xs, ∃ y, f x = .ok y := by
  induction xs with
  | nil => exact ⟨fun _ _ => nofun, fun _ => ⟨[], rfl⟩⟩
  | cons x xs ih =>
    rw [List.forall_mem_cons, ← ih]
    cases hx : f x with
    | error e =>
      rw [mapM_cons_of_error hx]
      exact ⟨nofun, fun ⟨⟨_, h⟩, _⟩ => nomatch h⟩
    | ok y =>
      rw [mapM_cons_of_ok hx]
      constructor
      · rintro ⟨ys, h⟩
        obtain ⟨rest, hrest, -⟩ := except_map_eq_ok_iff.mp h
        exact ⟨⟨y, rfl⟩, rest, hrest⟩
      · rintro ⟨-, rest, hrest⟩
        exact ⟨y :: rest, by rw [hrest]; rfl⟩

/-- The results around that of one element. -/
theorem exists_of_mapM_append_cons {before after : List α} {x : α} {ys : List β}
    (h : (before ++ x :: after).mapM f = .ok ys) :
    ∃ first y rest, before.mapM f = .ok first ∧ f x = .ok y ∧ after.mapM f = .ok rest ∧
      ys = first ++ y :: rest := by
  induction before generalizing ys with
  | nil =>
    obtain ⟨y, rest, hx, hrest, rfl⟩ := List.forall₂_cons_left_iff.mp (mapM_eq_ok_iff.mp h)
    exact ⟨[], y, rest, rfl, hx, mapM_eq_ok_iff.mpr hrest, rfl⟩
  | cons z before ih =>
    obtain ⟨u, us, hz, hus, rfl⟩ := List.forall₂_cons_left_iff.mp (mapM_eq_ok_iff.mp h)
    obtain ⟨first, y, rest, hfirst, hx, hrest, rfl⟩ := ih (mapM_eq_ok_iff.mpr hus)
    refine ⟨u :: first, y, rest, ?_, hx, hrest, rfl⟩
    rw [mapM_cons_of_ok hz, hfirst]
    rfl

/-- The failure of all is that of the first element that fails. -/
theorem mapM_eq_error_iff {xs : List α} {e : ε} :
    xs.mapM f = .error e ↔ ∃ before x after, xs = before ++ x :: after ∧
      (∀ y ∈ before, ∃ z, f y = .ok z) ∧ f x = .error e := by
  constructor
  · intro h
    induction xs with
    | nil => cases h
    | cons x xs ih =>
      cases hx : f x with
      | error e' =>
        rw [mapM_cons_of_error hx] at h
        cases h
        exact ⟨[], x, xs, rfl, nofun, hx⟩
      | ok y =>
        rw [mapM_cons_of_ok hx, except_map_eq_error_iff] at h
        obtain ⟨before, failing, after, rfl, hbefore, hfailing⟩ := ih h
        exact ⟨x :: before, failing, after, rfl,
          List.forall_mem_cons.mpr ⟨⟨y, hx⟩, hbefore⟩, hfailing⟩
  · rintro ⟨before, x, after, rfl, hbefore, hx⟩
    induction before with
    | nil => exact mapM_cons_of_error hx after
    | cons y before ih =>
      obtain ⟨⟨z, hy⟩, hbefore⟩ := List.forall_mem_cons.mp hbefore
      rw [List.cons_append, mapM_cons_of_ok hy, ih hbefore]
      rfl

end SqlBuilder
