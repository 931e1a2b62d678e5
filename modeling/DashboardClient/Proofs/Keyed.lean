import DashboardClient.ReplaceFirst

/-!
# Lists with distinct keys

Replacing the first element with a given key, seen through looking elements up. When no
two elements have the same key, exactly the element with that key changes and all others
stay as they are.
-/

namespace DashboardClient

section Keyed

variable {α : Type} {key : α → Nat} {k : Nat} {xs : List α}

theorem key_of_find? {x : α} (h : xs.find? (key · == k) = some x) : key x = k := by
  simpa using List.find?_some h

theorem map_key_replaceFirst {new : α} (hn : key new = k) :
    (replaceFirst (key · == k) (some new) xs).map key = xs.map key := by
  induction xs with
  | nil => rfl
  | cons x xs ih =>
    simp only [replaceFirst]
    by_cases hx : key x = k
    · simp [hx, hn]
    · simp [hx, ih]

theorem replaceFirst_none_sublist (p : α → Bool) : (replaceFirst p none xs).Sublist xs := by
  induction xs with
  | nil => exact List.Sublist.slnil
  | cons x xs ih =>
    simp only [replaceFirst]
    split
    · exact List.sublist_cons_self x xs
    · exact ih.cons_cons x

/-- Putting an element in the place of one with its key leaves the keys distinct. -/
theorem nodup_replaceFirst {new : Option α} (hn : ∀ x ∈ new, key x = k)
    (h : (xs.map key).Nodup) : ((replaceFirst (key · == k) new xs).map key).Nodup := by
  cases new with
  | none => exact h.sublist ((replaceFirst_none_sublist _).map key)
  | some x => rw [map_key_replaceFirst (hn x rfl)]; exact h

theorem find?_replaceFirst_ne {new : Option α} {k' : Nat} (hn : ∀ x ∈ new, key x = k)
    (hk : k' ≠ k) :
    (replaceFirst (key · == k) new xs).find? (key · == k') = xs.find? (key · == k') := by
  induction xs with
  | nil => rfl
  | cons x xs ih =>
    simp only [replaceFirst]
    by_cases hx : key x = k
    · cases new with
      | none => simp [hx, Ne.symm hk]
      | some y =>
        have hy : key y = k := hn y rfl
        simp [hx, hy, Ne.symm hk]
    · simp only [beq_iff_eq, hx, if_false, List.find?_cons, ih]

theorem find?_replaceFirst_some {old new : α} (hn : key new = k)
    (h : xs.find? (key · == k) = some old) :
    (replaceFirst (key · == k) (some new) xs).find? (key · == k) = some new := by
  induction xs with
  | nil => cases h
  | cons x xs ih =>
    simp only [replaceFirst]
    by_cases hx : key x = k
    · simp [hx, hn]
    · have hb : (key x == k) = false := beq_eq_false_iff_ne.2 hx
      simp only [List.find?_cons, hb, Bool.false_eq_true, if_false] at h ⊢
      exact ih h

theorem find?_replaceFirst_none (h : (xs.map key).Nodup) :
    (replaceFirst (key · == k) none xs).find? (key · == k) = none := by
  induction xs with
  | nil => rfl
  | cons x xs ih =>
    simp only [List.map_cons, List.nodup_cons] at h
    simp only [replaceFirst]
    by_cases hx : key x = k
    · have hnone : ∀ y ∈ xs, ¬key y = k := by
        intro y hy hyk
        exact h.1 (hx ▸ hyk ▸ List.mem_map_of_mem hy)
      simpa [hx] using hnone
    · simpa [hx, List.find?_cons, beq_eq_false_iff_ne.2 hx] using ih h.2

/-- With distinct keys, looking the key up finds what was put in its place. -/
theorem find?_replaceFirst_self {old : α} {new : Option α} (h : (xs.map key).Nodup)
    (ho : xs.find? (key · == k) = some old) (hn : ∀ x ∈ new, key x = k) :
    (replaceFirst (key · == k) new xs).find? (key · == k) = new := by
  cases new with
  | none => exact find?_replaceFirst_none h
  | some x => exact find?_replaceFirst_some (hn x rfl) ho

/-- With distinct keys, looking an element up finds every element. -/
theorem find?_eq_some_iff_mem {x : α} (h : (xs.map key).Nodup) :
    xs.find? (key · == key x) = some x ↔ x ∈ xs := by
  constructor
  · exact List.mem_of_find?_eq_some
  · intro hx
    induction xs with
    | nil => cases hx
    | cons y xs ih =>
      simp only [List.map_cons, List.nodup_cons] at h
      rcases List.mem_cons.1 hx with rfl | hx
      · simp
      · have hne : key y ≠ key x := fun he => h.1 (he ▸ List.mem_map_of_mem hx)
        simpa [List.find?_cons, beq_eq_false_iff_ne.2 hne] using ih h.2 hx

theorem filter_key_eq {x : α} (h : (xs.map key).Nodup) (hx : x ∈ xs) :
    xs.filter (key · == key x) = [x] := by
  induction xs with
  | nil => cases hx
  | cons y xs ih =>
    simp only [List.map_cons, List.nodup_cons] at h
    rcases List.mem_cons.1 hx with rfl | hx
    · have hnone : ∀ y ∈ xs, ¬key y = key x := by
        intro y hy hyx
        exact h.1 (hyx ▸ List.mem_map_of_mem hy)
      simpa [List.filter_eq_nil_iff] using hnone
    · have hne : key y ≠ key x := fun he => h.1 (he ▸ List.mem_map_of_mem hx)
      simpa [hne] using ih h.2 hx

/-- With distinct keys, replacing an element keeps exactly the elements with other keys. -/
theorem mem_replaceFirst_iff {new : Option α} {old y : α} (hn : ∀ x ∈ new, key x = k)
    (h : (xs.map key).Nodup) (ho : xs.find? (key · == k) = some old) :
    y ∈ replaceFirst (key · == k) new xs ↔ y ∈ new ∨ (y ∈ xs ∧ key y ≠ k) := by
  rw [← find?_eq_some_iff_mem (nodup_replaceFirst hn h)]
  by_cases hk : key y = k
  · rw [hk]
    cases new with
    | none => simp [find?_replaceFirst_none h]
    | some x => simp [find?_replaceFirst_some (hn x rfl) ho]
  · have hnew : y ∉ new := fun hy => hk (hn y hy)
    simp [find?_replaceFirst_ne hn hk, find?_eq_some_iff_mem h, hk, hnew]

/-- Replacing an element twice is replacing it once. -/
theorem replaceFirst_replaceFirst {new : α} {new' : Option α} (hn : key new = k) :
    replaceFirst (key · == k) new' (replaceFirst (key · == k) (some new) xs) =
      replaceFirst (key · == k) new' xs := by
  induction xs with
  | nil => rfl
  | cons x xs ih =>
    by_cases hx : key x = k
    · simp [replaceFirst, hx, hn]
    · simp [replaceFirst, hx, ih]

/-- Elements with different keys are replaced in any order. -/
theorem replaceFirst_comm {k' : Nat} {new new' : Option α} (hne : k ≠ k')
    (hn : ∀ x ∈ new, key x = k) (hn' : ∀ x ∈ new', key x = k') :
    replaceFirst (key · == k) new (replaceFirst (key · == k') new' xs) =
      replaceFirst (key · == k') new' (replaceFirst (key · == k) new xs) := by
  induction xs with
  | nil => rfl
  | cons x xs ih =>
    by_cases hx : key x = k
    · cases new with
      | none => simp [replaceFirst, hx, hne]
      | some y => simp [replaceFirst, hx, hne, hn y rfl]
    · by_cases hx' : key x = k'
      · cases new' with
        | none => simp [replaceFirst, hx', hne.symm]
        | some y => simp [replaceFirst, hx', hne.symm, hn' y rfl]
      · simp [replaceFirst, hx, hx', ih]

/-- Two tests that find the same element replace the same element. -/
theorem replaceFirst_congr {p q : α → Bool} {old : α} (new : Option α)
    (h : (xs.map key).Nodup) (hp : xs.find? p = some old) (hq : xs.find? q = some old) :
    replaceFirst p new xs = replaceFirst q new xs := by
  induction xs with
  | nil => rfl
  | cons x xs ih =>
    simp only [List.map_cons, List.nodup_cons] at h
    simp only [List.find?_cons] at hp hq
    -- An element that only one test accepts here is found by the other one further on,
    -- where no element has its key.
    have hlater {r : α → Bool} (hr : xs.find? r = some old) : x ≠ old :=
      fun he => h.1 (he ▸ List.mem_map_of_mem (List.mem_of_find?_eq_some hr))
    cases hpx : p x with
    | true =>
      cases hqx : q x with
      | true => simp [replaceFirst, hpx, hqx]
      | false =>
        simp only [hpx, hqx, Option.some.injEq] at hp hq
        exact absurd hp (hlater hq)
    | false =>
      cases hqx : q x with
      | true =>
        simp only [hpx, hqx, Option.some.injEq] at hp hq
        exact absurd hq (hlater hp)
      | false =>
        simp only [hpx, hqx] at hp hq
        simp [replaceFirst, hpx, hqx, ih h.2 hp hq]

/-- Which test finds an element does not matter, as long as it is the first one found. -/
theorem find?_and_replaceFirst_and {p q : α → Bool} {x : α}
    (h : xs.find? q = some x) (hp : p x = true) (new : Option α) :
    xs.find? (fun y => p y && q y) = some x ∧
      replaceFirst (fun y => p y && q y) new xs = replaceFirst q new xs := by
  induction xs with
  | nil => cases h
  | cons y xs ih =>
    rw [List.find?_cons] at h
    cases hq : q y with
    | true =>
      rw [hq] at h
      obtain rfl := Option.some.inj h
      simp [replaceFirst, hp, hq]
    | false =>
      rw [hq] at h
      simpa [replaceFirst, hq] using ih h

end Keyed

end DashboardClient
