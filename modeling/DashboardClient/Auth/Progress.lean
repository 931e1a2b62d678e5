import DashboardClient.Auth.Gateway

/-!
# The work that is left in a gateway

Every call passes through its stages in one direction, so a number that says how far it
still has to go falls with each step that changes anything. The main statements say that
running a ready call and taking a reply in both make the work of the gateway smaller.
-/

namespace DashboardClient

/-- A bound on the steps that a call at this stage can still take. -/
def AuthStage.work : AuthStage → Nat
  | .ready => 5
  | .queued => 4
  | .probingIdentity => 3
  | .probingToken _ => 2
  | .loggingIn _ => 1
  | .loggingOut => 1
  | .refreshing _ => 1

/-- A bound on the steps that the calls can still take. -/
def AuthGateway.work (g : AuthGateway) : Nat :=
  totalWeight (·.stage.work) g.calls

namespace AuthGateway

theorem work_moveTo {g : AuthGateway} {c : AuthCall} (stage : AuthStage)
    (h : g.call? c.id = some c) :
    (g.moveTo c stage).work + c.stage.work = g.work + stage.work :=
  totalWeight_replaceFirst (·.stage.work) (some { c with stage }) h

theorem work_remove {g : AuthGateway} {c : AuthCall} (h : g.call? c.id = some c) :
    (g.remove c).work + c.stage.work = g.work :=
  totalWeight_replaceFirst (·.stage.work) none h

theorem work_proceed {g : AuthGateway} {c : AuthCall} (o : Except AuthError SessionPhase)
    (h : g.call? c.id = some c) : (g.proceed c o).1.work + c.stage.work ≤ g.work + 1 := by
  have hr := work_remove h
  have hl : ∀ identity, (g.moveTo c (.loggingIn identity)).work + c.stage.work = g.work + 1 :=
    fun _ => work_moveTo _ h
  have ho : (g.moveTo c .loggingOut).work + c.stage.work = g.work + 1 := work_moveTo _ h
  have hf : (g.moveTo c (.refreshing g.store.epoch)).work + c.stage.work = g.work + 1 :=
    work_moveTo _ h
  unfold proceed
  split
  · split <;> simp only [answer] <;> omega
  · simp only [send, answer]
    split
    · simp only; omega
    · simp only [hl]; omega
  · simp only [send]; omega
  · split <;> simp only [send, answer] <;> omega

theorem work_run_lt {g : AuthGateway} {c : AuthCall} (h : g.call? c.id = some c)
    (hr : g.isReady c = true) : (g.run c).1.work < g.work := by
  have hm := fun stage => work_moveTo stage h
  have hp : (g.runProbe c).1.work + c.stage.work = g.work + 3 := hm .probingIdentity
  unfold isReady at hr
  unfold run
  split
  · next hs _ => rw [hs] at hp; simp only [AuthStage.work] at hp; omega
  · next hs _ =>
    have hq : ({ g.moveTo c .queued with queue := g.queue ++ [c.id] } : AuthGateway).work
      = (g.moveTo c .queued).work := rfl
    have := hm .queued
    simp only [hs, AuthStage.work] at *
    omega
  · next o hs _ =>
    have := work_proceed o h
    simp only [hs, AuthStage.work] at *
    omega
  · next o hs _ =>
    have := work_proceed o h
    simp only [hs, AuthStage.work] at *
    omega
  · next holder hs hpr =>
    simp only [hs, hpr, beq_iff_eq] at hr
    simp only [hr, if_true]
    rw [hs] at hp
    simp only [AuthStage.work] at hp
    omega
  · next h1 h2 h3 h4 h5 =>
    split at hr
    · next hs =>
      cases hpr : g.probe with
      | unstarted => exact absurd hpr (h1 hs)
      | running holder => exact absurd hpr (h2 holder hs)
      | settled o => exact absurd hpr (h3 o hs)
    · next hs =>
      cases hpr : g.probe with
      | unstarted => simp [hpr] at hr
      | running holder => exact absurd hpr (h5 holder hs)
      | settled o => exact absurd hpr (h4 o hs)
    · cases hr

theorem work_settleProbe {g : AuthGateway} {c : AuthCall} (o : Except AuthError SessionPhase)
    (change : SessionChange) (store : SessionStore) (notice : AuthNotice)
    (h : g.call? c.id = some c) :
    (g.settleProbe c o change store notice).1.work + c.stage.work ≤ g.work + 1 :=
  work_proceed (g := { g with store, probe := .settled o, queue := [] }) o h

theorem work_answer {g : AuthGateway} {c : AuthCall} (store : SessionStore) (a : AuthAnswer)
    (h : g.call? c.id = some c) :
    (({ g with store } : AuthGateway).answer c a).1.work + c.stage.work = g.work :=
  work_remove h

theorem work_receive {g : AuthGateway} {c : AuthCall} (reply : BackendReply)
    (h : g.call? c.id = some c) :
    (g.receive c reply).1.work < g.work ∨ g.receive c reply = (g, []) := by
  have hr := work_remove h
  have ha := fun store a => work_answer store a h
  have hs := fun o change store notice => work_settleProbe o change store notice h
  unfold receive
  split
  · next identity hst =>
    have hm := work_moveTo (.probingToken identity) h
    rw [hst] at hm
    exact Or.inl (by simp only [send, AuthStage.work] at *; omega)
  · next hst =>
    have := hs (.ok .anonymous) .probedAnonymous g.store.resetAnonymous .noSession
    rw [hst] at this
    exact Or.inl (by simp only [settleAnonymous, AuthStage.work] at *; omega)
  · next e _ hst =>
    have := hs (.ok .anonymous) .probedAnonymous g.store.resetAnonymous (.probeFailed e)
    rw [hst] at this
    exact Or.inl (by simp only [settleAnonymous, AuthStage.work] at *; omega)
  · next identity token hst =>
    have := hs (.ok .authenticated) (.probedAuthenticated identity token)
      (g.store.setAuthenticated identity token) (.probedAuthenticated identity)
    rw [hst] at this
    exact Or.inl (by simp only [AuthStage.work] at *; omega)
  · next _ e hst =>
    have := hs (.error (.initialization e)) .probedAnonymous g.store.resetAnonymous
      (.probeTokenFailed e)
    rw [hst] at this
    exact Or.inl (by simp only [settleAnonymous, AuthStage.work] at *; omega)
  · next _ session hst =>
    have := ha (g.store.setAuthenticated session.identity session.token)
      (.session (g.store.setAuthenticated session.identity session.token).state)
    rw [hst] at this
    exact Or.inl (by simp only [AuthStage.work] at *; omega)
  · next identity e hst =>
    rw [hst] at hr
    exact Or.inl (by split <;> simp only [answer, AuthStage.work] at * <;> omega)
  · next hst =>
    have := ha g.store.resetAnonymous .loggedOut
    rw [hst] at this
    exact Or.inl (by simp only [clearSession, AuthStage.work] at *; omega)
  · next e hst =>
    have := ha g.store.resetAnonymous (.error (.api e))
    rw [hst] at this
    exact Or.inl (by simp only [clearSession, AuthStage.work] at *; omega)
  · next epoch token hst =>
    unfold installToken
    split
    · next store _ =>
      have := ha store (.token token)
      rw [hst] at this
      exact Or.inl (by simp only [AuthStage.work] at *; omega)
    · rw [hst] at hr
      exact Or.inl (by simp only [answer, AuthStage.work] at *; omega)
  · next _ e hst =>
    rw [hst] at hr
    exact Or.inl (by simp only [answer, AuthStage.work] at *; omega)
  · exact Or.inr rfl

end AuthGateway

end DashboardClient
