import DashboardClient.Session.Store

/-!
# Tokens of a session store

A token is taken exactly in the authenticated session of its epoch. Elsewhere it changes nothing.
-/

namespace DashboardClient

namespace SessionStore

variable (store : SessionStore)

theorem phase_eq_authenticated_iff :
    store.phase = .authenticated ↔
      ∃ identity token, store.state = .authenticated identity token := by
  unfold phase
  cases store.state <;> simp [SessionState.phase]

theorem replaceToken_of_past {epoch : Nat} (token : String)
    (past : ¬(store.phase = .authenticated ∧ epoch = store.epoch)) :
    store.replaceToken epoch token = (false, store) := by
  rw [replaceToken]
  split
  · next hs =>
    have hepoch : store.epoch ≠ epoch := fun he => past ⟨by rw [phase, hs]; rfl, he.symm⟩
    rw [if_neg hepoch]
  · rfl

theorem replaceToken_of_current {identity current : String}
    (hs : store.state = .authenticated identity current) (token : String) :
    store.replaceToken store.epoch token =
      (true, if current = token then store
        else { store with watched := store.watched.write (.authenticated identity token) }) := by
  simp only [replaceToken, hs, if_true]
  split <;> rfl

theorem replaceToken_eq_true_iff (epoch : Nat) (token : String) :
    (store.replaceToken epoch token).1 = true ↔
      store.phase = .authenticated ∧ epoch = store.epoch := by
  by_cases current : store.phase = .authenticated ∧ epoch = store.epoch
  · refine iff_of_true ?_ current
    obtain ⟨authenticated, rfl⟩ := current
    obtain ⟨identity, old, hs⟩ := store.phase_eq_authenticated_iff.1 authenticated
    rw [store.replaceToken_of_current hs]
  · refine iff_of_false ?_ current
    rw [store.replaceToken_of_past token current]
    exact Bool.false_ne_true

end SessionStore

end DashboardClient
