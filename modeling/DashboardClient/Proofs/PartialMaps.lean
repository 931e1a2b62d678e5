import Mathlib.Data.List.Forall2

/-!
# Partial maps over lists

A partial map over a list comes to a result when it does so at every place. Digits, bytes and
fields are read that way, so what is read is described place by place.
-/

namespace DashboardClient

variable {α β : Type} {xs : List α} {ys : List β}

theorem mapM_eq_some_iff {f : α → Option β} :
    xs.mapM f = some ys ↔ List.Forall₂ (fun x y => f x = some y) xs ys := by
  induction xs generalizing ys with
  | nil => simp [eq_comm]
  | cons x xs ih =>
    simp only [List.mapM_cons, Option.pure_def, Option.bind_eq_bind, Option.bind_eq_some_iff,
      List.forall₂_cons_left_iff, ih]
    constructor
    · rintro ⟨y, hy, ys', hys, h⟩
      cases h
      exact ⟨y, ys', hy, hys, rfl⟩
    · rintro ⟨y, ys', hy, hys, rfl⟩
      exact ⟨y, hy, ys', hys, rfl⟩

theorem mapM_eq_some_map {f : α → Option β} {g : α → β} (h : ∀ x ∈ xs, f x = some (g x)) :
    xs.mapM f = some (xs.map g) :=
  mapM_eq_some_iff.2 (List.forall₂_map_right_iff.2 (List.forall₂_same.2 h))

/-- All places are filled, and this is what they hold. -/
theorem mapM_id_eq_some_iff {items : List (Option β)} :
    items.mapM id = some ys ↔ items = ys.map some := by
  rw [mapM_eq_some_iff, ← List.forall₂_eq_eq_eq, List.forall₂_map_right_iff]
  rfl

/-- A partial map that is a function on what it accepts. -/
theorem mapM_eq_some_iff_of_accepts {f : α → Option β} {p : α → Prop} {g : α → β}
    (h : ∀ x y, f x = some y ↔ p x ∧ g x = y) :
    xs.mapM f = some ys ↔ (∀ x ∈ xs, p x) ∧ xs.map g = ys := by
  simp only [mapM_eq_some_iff, h]
  rw [List.forall₂_and_left, ← List.forall₂_eq_eq_eq, List.forall₂_map_left_iff]

theorem exists_forall₂_iff {R : α → β → Prop} :
    (∃ ys, List.Forall₂ R xs ys) ↔ ∀ x ∈ xs, ∃ y, R x y := by
  induction xs with
  | nil => exact iff_of_true ⟨[], .nil⟩ nofun
  | cons x xs ih =>
    rw [List.forall_mem_cons, ← ih]
    constructor
    · rintro ⟨_, h⟩
      cases h with | cons first others => exact ⟨⟨_, first⟩, _, others⟩
    · rintro ⟨⟨y, first⟩, ys, others⟩
      exact ⟨y :: ys, .cons first others⟩

theorem forall₂_congr_of_mem {R S : α → β → Prop} (h : ∀ x ∈ xs, ∀ y, R x y ↔ S x y) :
    List.Forall₂ R xs ys ↔ List.Forall₂ S xs ys := by
  induction xs generalizing ys with
  | nil => simp
  | cons x xs ih =>
    rw [List.forall_mem_cons] at h
    simp only [List.forall₂_cons_left_iff, h.1, ih h.2]

end DashboardClient
