import DashboardClient.Proofs.Auth.Logout
import DashboardClient.Proofs.Auth.Secrecy

/-!
# What a world reports

The history of a world says which backend calls were made and how the session changed. A
step of the gateway makes one call at most and one change at most, a logout is asked for
with the token of the session as it then is, and the session has the token of the change.
-/

namespace DashboardClient

-- ---------------------------------------------------------------------------
-- What steps of the gateway report
-- ---------------------------------------------------------------------------

/-- The token that a session has from a change. -/
def SessionChange.token? : SessionChange → Option String
  | .probedAuthenticated _ token => some token
  | .loggedIn _ token => some token
  | .tokenReplaced token => some token
  | .probedAnonymous => none
  | .loggedOut => none

/-- The token that a logout is asked for with. -/
def BackendCall.logoutToken? : BackendCall → Option (Option String)
  | .logout given => some given
  | _ => none

/-- The token that a session has after a change, or after none. -/
def SessionStore.tokenAfter (store : SessionStore) (change : Option SessionChange) :
    Option String :=
  (change.map SessionChange.token?).getD store.token?

theorem ProbeEnds.token?_commit {stage : AuthStage} {reply : BackendReply}
    {outcome : Except AuthError SessionPhase} {change : SessionChange} {notice : AuthNotice}
    (h : ProbeEnds stage reply outcome change notice) (store : SessionStore) :
    (change.commit store).token? = change.token? := by
  cases h <;> rfl

theorem Finishes.token?_after {store : SessionStore} {id : Nat} {stage : AuthStage}
    {reply : BackendReply} {change : Option SessionChange} {answer : AuthAnswer}
    {es : List AuthEvent} (h : Finishes store id stage reply change answer es) :
    (store.after change).token? = store.tokenAfter change := by
  cases h with
  | @refreshed identity old token authenticated =>
    have hstate := SessionChange.commit_state store (.tokenReplaced token)
    rw [authenticated] at hstate
    simp only [SessionStore.after, SessionStore.token?, hstate]
    rfl
  | _ => rfl

namespace AuthGateway

variable {g g' : AuthGateway} {a : AuthAction} {c : AuthCall} {es : List AuthEvent}

theorem token?_lastChange (store : SessionStore) (stage : AuthStage) :
    (store.after stage.lastChange).token? = store.tokenAfter stage.lastChange := by
  cases stage <;> rfl

/-- A step reports one change at most, and the session has the token of it. -/
theorem Step.token?_eq (h : g.Step a g' es) :
    ∃ change, changesIn es = change.toList ∧ g'.store.token? = g.store.tokenAfter change := by
  cases h with
  | proceed live stage ended proceeds =>
    exact ⟨none, proceeds.changesIn_eq, by rw [proceeds.store_eq]; rfl⟩
  | @settle _ _ _ change _ _ _ live ends proceeds =>
    refine ⟨some change, ?_, ?_⟩
    · simp [AuthEvent.change?, proceeds.changesIn_eq]
    · rw [proceeds.store_eq]
      exact ends.token?_commit g.store
  | finish live finishes =>
    exact ⟨_, by simp [finishes.changesIn_eq, AuthEvent.change?], finishes.token?_after⟩
  | @abandon c =>
    refine ⟨c.stage.lastChange, by simp [changesIn_lastChange, AuthEvent.change?], ?_⟩
    rw [handOver_store]
    exact token?_lastChange g.store _
  | @withdraw c =>
    refine ⟨c.stage.lastChange, by simp [changesIn_lastChange, AuthEvent.change?], ?_⟩
    exact token?_lastChange g.store _
  | _ => exact ⟨none, rfl, rfl⟩

theorem sent_finishes {store : SessionStore} {id : Nat} {stage : AuthStage} {reply : BackendReply}
    {change : Option SessionChange} {answer : AuthAnswer}
    (h : Finishes store id stage reply change answer es) : es.filterMap AuthEvent.sent? = [] := by
  cases h <;> rfl

theorem Proceeds.sent_length {outcome : Except AuthError SessionPhase}
    (h : g.Proceeds c outcome g' es) : (es.filterMap AuthEvent.sent?).length ≤ 1 := by
  cases h with
  | decline => exact Nat.zero_le _
  | send => exact Nat.le_refl _

/-- A step asks the backend at most once. -/
theorem Step.sent_length (h : g.Step a g' es) : (es.filterMap AuthEvent.sent?).length ≤ 1 := by
  have hlast (id : Nat) (change : Option SessionChange) :
      (change.map (AuthEvent.changed id)).toList.filterMap AuthEvent.sent? = [] := by
    cases change <;> rfl
  cases h with
  | probe => exact Nat.le_refl _
  | identify => exact Nat.le_refl _
  | proceed live stage ended proceeds => exact proceeds.sent_length
  | settle live ends proceeds => exact proceeds.sent_length
  | finish live finishes => rw [List.filterMap_append, sent_finishes finishes]; exact Nat.zero_le _
  | abandon => rw [List.filterMap_append, hlast]; exact Nat.zero_le _
  | withdraw => rw [List.filterMap_append, hlast]; exact Nat.zero_le _
  | _ => exact Nat.zero_le _

end AuthGateway


-- ---------------------------------------------------------------------------
-- What steps of a world report
-- ---------------------------------------------------------------------------

namespace AuthWorld

/-- The backend calls so far, the latest first. -/
def calls {σ : Type} (w : AuthWorld σ) : List BackendCall :=
  w.history.filterMap fun e => e.2.sent?.map (·.2)

/-- The changes of the session so far, the latest first. -/
def changes {σ : Type} (w : AuthWorld σ) : List SessionChange :=
  w.history.filterMap fun e => e.2.change?

section

variable {σ : Type} [Backend σ] (w : AuthWorld σ) (a : AuthAction)

@[simp] theorem serve_gateway (id : Nat) (call : BackendCall) :
    (w.serve id call).gateway = w.gateway := by
  unfold serve
  split
  split <;> rfl

@[simp] theorem serve_history (id : Nat) (call : BackendCall) :
    (w.serve id call).history = w.history := by
  unfold serve
  split
  split <;> rfl

@[simp] theorem serve_backend (id : Nat) (call : BackendCall) :
    (w.serve id call).backend = (Backend.serve w.backend call).2 := by
  unfold serve
  split
  next h =>
    rw [h]
    split <;> rfl

@[simp] theorem serve_now (id : Nat) (call : BackendCall) : (w.serve id call).now = w.now := by
  unfold serve
  split
  split <;> rfl

@[simp] theorem act_now : (w.act a).now = w.now := by
  simp only [act]
  split
  · rw [serve_now]
  · rfl

@[simp] theorem act_gateway : (w.act a).gateway = (w.gateway.act a).1 := by
  simp only [act]
  split
  · rw [serve_gateway]
  · rfl

theorem act_history :
    (w.act a).history = ((w.gateway.act a).2.map fun e => (w.now, e)).reverse ++ w.history := by
  simp only [act]
  split
  · rw [serve_history]
  · rfl

theorem act_backend :
    (w.act a).backend =
      ((w.gateway.act a).2.findSome? AuthEvent.sent?).elim w.backend
        fun s => (Backend.serve w.backend s.2).2 := by
  simp only [act]
  split
  · next h => rw [h, serve_backend]; rfl
  · next h => rw [h]; rfl

/-- The clock stands while a world runs until it is idle. -/
theorem now_runUntilIdle : w.runUntilIdle.now = w.now := by
  induction w using runUntilIdle.induct with
  | case1 w hidle => rw [runUntilIdle_of_none hidle]
  | case2 w w' hstep ih =>
    rw [runUntilIdle_of_some hstep, ih]
    unfold step? at hstep
    split at hstep
    · obtain rfl := Option.some.inj hstep
      exact act_now _ _
    · split at hstep
      · obtain rfl := Option.some.inj hstep
        rfl
      · obtain ⟨id, -, rfl⟩ := Option.map_eq_some_iff.1 hstep
        exact act_now w _

/-- A step of the gateway asks the backend for nothing, or for one thing. -/
theorem act_asks :
    ((w.act a).backend = w.backend ∧ (w.act a).calls = w.calls) ∨
    ∃ call, (w.act a).backend = (Backend.serve w.backend call).2 ∧
      (w.act a).calls = call :: w.calls ∧
      ∀ token, call = .logout token → token = (w.act a).session.token? := by
  have hstep := AuthGateway.step_act w.gateway a
  have hlength := hstep.sent_length
  have hcalls : (w.act a).calls =
      (((w.gateway.act a).2.filterMap AuthEvent.sent?).reverse.map (·.2)) ++ w.calls := by
    simp only [calls, act_history, List.filterMap_append, List.filterMap_reverse,
      List.filterMap_map, ← List.map_filterMap, Function.comp_def, List.map_reverse]
  have hbackend := act_backend w a
  rw [← List.head?_filterMap] at hbackend
  cases hsent : (w.gateway.act a).2.filterMap AuthEvent.sent? with
  | nil =>
    rw [hsent] at hcalls hbackend
    exact Or.inl ⟨hbackend, hcalls⟩
  | cons s rest =>
    rw [hsent, List.length_cons] at hlength
    obtain rfl : rest = [] := List.eq_nil_of_length_eq_zero (by omega)
    rw [hsent] at hcalls hbackend
    refine Or.inr ⟨s.2, hbackend, hcalls, ?_⟩
    intro token htoken
    have hmem : .sent s.1 (.logout token) ∈ (w.gateway.act a).2 := by
      obtain ⟨e, he, hse⟩ := List.mem_filterMap.1 (hsent ▸ List.mem_cons_self)
      cases e with
      | sent id call =>
        obtain rfl := Option.some.inj hse
        exact htoken ▸ he
      | _ => cases hse
    rw [session, act_gateway]
    exact (hstep.asks_logout hmem).2.1

/-- A step of the gateway makes one change at most, and the session has the token of it. -/
theorem act_token :
    ∃ change : Option SessionChange, (w.act a).changes = change.toList ++ w.changes ∧
      (w.act a).session.token? = w.gateway.store.tokenAfter change := by
  obtain ⟨change, hchange, htoken⟩ := (AuthGateway.step_act w.gateway a).token?_eq
  refine ⟨change, ?_, ?_⟩
  · have hchanges : (w.act a).changes = (changesIn (w.gateway.act a).2).reverse ++ w.changes := by
      simp only [changes, act_history, List.filterMap_append, List.filterMap_reverse,
        List.filterMap_map, changesIn, Function.comp_def]
    rw [hchanges, hchange]
    cases change <;> rfl
  · rw [session, act_gateway]
    exact htoken

end

end AuthWorld

/-- The command is a single step, which leaves the schedule to whoever gives commands. -/
def AuthCommand.isAtomic : AuthCommand → Bool
  | .idle => false
  | .advance _ => false
  | _ => true

namespace AuthWorld

/-- A single command is a step of the gateway, or leaves gateway, backend and all that
matters here alone. -/
theorem obey_cases {σ : Type} [Backend σ] (w : AuthWorld σ) {command : AuthCommand}
    (atomic : command.isAtomic = true) :
    (∃ (w₀ : AuthWorld σ) (a : AuthAction), w.obey command = w₀.act a ∧
      w₀.gateway = w.gateway ∧ w₀.backend = w.backend ∧ w₀.history = w.history) ∨
    ((w.obey command).gateway = w.gateway ∧ (w.obey command).backend = w.backend ∧
      (w.obey command).calls = w.calls ∧ (w.obey command).changes = w.changes) := by
  cases command with
  | call request =>
    refine Or.inl ⟨{ w with started := w.started + 1 }, .start w.started request, ?_⟩
    exact ⟨rfl, rfl, rfl, rfl⟩
  | await => exact Or.inr ⟨rfl, rfl, rfl, rfl⟩
  | cancel id =>
    refine Or.inl ⟨{ w with
      waiters := w.waiters.filter (· != id)
      pending := w.pending.filter (·.id != id) }, .cancel id, ?_⟩
    exact ⟨rfl, rfl, rfl, rfl⟩
  | run id => exact Or.inl ⟨w, .run id, rfl, rfl, rfl, rfl⟩
  | arrive id =>
    simp only [obey, deliver]
    cases w.pending.find? fun p => p.id == id && w.isDue p with
    | none => exact Or.inr ⟨rfl, rfl, rfl, rfl⟩
    | some p =>
      refine Or.inl ⟨{ w with
        pending := replaceFirst (fun p => p.id == id && w.isDue p) none w.pending },
        .reply p.id p.reply, ?_⟩
      exact ⟨rfl, rfl, rfl, rfl⟩
  | release =>
    simp only [obey]
    split
    · exact Or.inr ⟨rfl, rfl, rfl, rfl⟩
    · refine Or.inr ⟨rfl, rfl, ?_, ?_⟩
      · simp [calls, releaseWaiters, AuthEvent.sent?, List.filterMap_map]
      · simp [changes, releaseWaiters, AuthEvent.change?, List.filterMap_map]
  | pass nanos => exact Or.inr ⟨rfl, rfl, rfl, rfl⟩
  | idle => cases atomic
  | advance nanos => cases atomic

end AuthWorld

end DashboardClient
