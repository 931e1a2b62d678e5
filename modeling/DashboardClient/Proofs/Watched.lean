import DashboardClient.Watched

/-!
# Versions of a watched value

How many versions lie between two moments of a watched value. A value under the same version is
the same value, and a receiver has news exactly if a version was made since it last looked.
-/

namespace DashboardClient

namespace Watched

variable {α : Type} {w w' w'' : Watched α} {m n : Nat}

/-- From `w` to `w'` exactly `n` versions were made, and nothing changed without one. -/
structure Makes (n : Nat) (w w' : Watched α) : Prop where
  version : w'.version = w.version + n
  kept : n = 0 → w' = w

namespace Makes

theorem refl (w : Watched α) : Makes 0 w w :=
  ⟨rfl, fun _ => rfl⟩

theorem write (w : Watched α) (value : α) : Makes 1 w (w.write value) :=
  ⟨rfl, nofun⟩

theorem trans (h : Makes m w w') (h' : Makes n w' w'') : Makes (m + n) w w'' where
  version := by rw [h'.version, h.version, Nat.add_assoc]
  kept none := by
    obtain ⟨hm, hn⟩ := Nat.add_eq_zero_iff.1 none
    rw [h'.kept hn, h.kept hm]

/-- Under the same version stands the same value. -/
theorem eq_of_version_eq (h : Makes n w w') (same : w'.version = w.version) : w' = w :=
  h.kept (Nat.add_eq_left.1 (h.version.symm.trans same))

/-- Another value has the next version. -/
theorem version_eq_succ {told : Bool} (h : Makes told.toNat w w') (changed : w'.value ≠ w.value) :
    w'.version = w.version + 1 := by
  cases told with
  | false => exact absurd (congrArg value (h.kept rfl)) changed
  | true => exact h.version

/-- While somebody is left who could write, a receiver that saw `w` is told exactly of what was
made since. -/
theorem news_eq_changed_iff (h : Makes n w w') {isOpen : Bool} (alive : isOpen = true) :
    w'.news isOpen w.subscribe = .changed ↔ n ≠ 0 := by
  have hnews : w'.hasNews w.subscribe = true ↔ n ≠ 0 := by
    rw [hasNews, subscribe, h.version, bne_iff_ne, ne_comm]
    exact not_congr Nat.add_eq_left
  subst alive
  rw [news, ← hnews]
  cases w'.hasNews w.subscribe <;> simp

end Makes

end Watched

end DashboardClient
