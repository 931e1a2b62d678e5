import DashboardClient.Proofs.Auth.Reports
import DashboardClient.Proofs.Http.Requests

/-!
# A connection in common

A gateway and any number of retrievals share one connection, and their steps follow each
other in any order. A step of either uses the connection for one request or not at all.
What a world does by itself is a sequence of such steps.
-/

namespace DashboardClient

/-- A step of the gateway, or a retrieval on the same connection. -/
inductive SharedStep : Type 1 where
  | gateway (command : AuthCommand) (atomic : command.isAtomic = true)
  | retrieve {α : Type} (decode? : String → Option α) (path : String)

namespace AuthWorld

/-- Take one step. -/
def share (w : AuthWorld Connection) : SharedStep → AuthWorld Connection
  | .gateway command _ => w.obey command
  | .retrieve decode? path => { w with backend := (w.backend.retrieve decode? path).2 }

/-- Take the steps of a list. -/
def shareAll (w : AuthWorld Connection) (script : List SharedStep) : AuthWorld Connection :=
  script.foldl share w

theorem shareAll_append (w : AuthWorld Connection) (first rest : List SharedStep) :
    w.shareAll (first ++ rest) = (w.shareAll first).shareAll rest :=
  List.foldl_append

theorem shareAll_snoc (w : AuthWorld Connection) (script : List SharedStep) (step : SharedStep) :
    w.shareAll (script ++ [step]) = (w.shareAll script).share step :=
  shareAll_append w script [step]

/-- Whatever the scheduler does at one instant is done step by step. -/
theorem exists_shareAll_runUntilIdle (w : AuthWorld Connection) :
    ∃ steps, w.runUntilIdle = w.shareAll steps := by
  induction w using runUntilIdle.induct with
  | case1 w hidle => exact ⟨[], runUntilIdle_of_none hidle⟩
  | case2 w w' hstep ih =>
    obtain ⟨steps, hsteps⟩ := ih
    have hfirst (step : SharedStep) (h : w.share step = w') :
        ∃ steps, w.runUntilIdle = w.shareAll steps := by
      refine ⟨step :: steps, ?_⟩
      rw [runUntilIdle_of_some hstep, hsteps, ← h]
      rfl
    rw [step?_eq] at hstep
    cases hdue : w.pending.find? w.isDue with
    | some p =>
      rw [deliver, hdue] at hstep
      obtain ⟨hfind, hreplace⟩ :=
        find?_and_replaceFirst_and (p := fun q => q.id == p.id) hdue (beq_self_eq_true p.id) none
      refine hfirst (.gateway (.arrive p.id) rfl) ?_
      show w.obey (.arrive p.id) = w'
      rw [obey, deliver, hfind, Option.map_some, hreplace]
      exact Option.some.inj hstep
    | none =>
      rw [deliver, hdue] at hstep
      simp only [Option.map_none, Option.orElse_none] at hstep
      split at hstep
      · next hwaiting =>
        refine hfirst (.gateway .release rfl) ?_
        show w.obey .release = w'
        rw [Bool.and_eq_true, Bool.not_eq_true', Bool.not_eq_true'] at hwaiting
        rw [obey, hwaiting.2]
        exact Option.some.inj hstep
      · obtain ⟨id, -, hrun⟩ := Option.map_eq_some_iff.1 hstep
        exact hfirst (.gateway (.run id) rfl) hrun

theorem share_pass {w : AuthWorld Connection} {t : Nat} (hle : w.now ≤ t) :
    w.share (.gateway (.pass (t - w.now)) rfl) = { w with now := t } := by
  show { w with now := w.now + (t - w.now) } = { w with now := t }
  rw [Nat.add_sub_cancel' hle]

/-- Letting everything run up to an instant is done step by step. -/
theorem exists_shareAll_advanceTo (w : AuthWorld Connection) (target : Nat) (hle : w.now ≤ target) :
    ∃ steps, w.advanceTo target = w.shareAll steps := by
  obtain ⟨idle, hidle⟩ := w.exists_shareAll_runUntilIdle
  have hnow := w.now_runUntilIdle
  -- From the idle world on, the clock moves and the remaining steps follow.
  have hmove {t : Nat} {last : AuthWorld Connection} (steps : List SharedStep) (ht : w.now ≤ t)
      (hlast : last = ({ w.runUntilIdle with now := t } : AuthWorld Connection).shareAll steps) :
      ∃ steps, last = w.shareAll steps := by
    rw [← hnow] at ht
    refine ⟨idle ++ .gateway (.pass (t - w.runUntilIdle.now)) rfl :: steps, ?_⟩
    rw [hlast, ← share_pass ht, shareAll_append, ← hidle]
    rfl
  rw [advanceTo]
  split
  · exact hmove [] hle rfl
  · next t _ =>
    split
    · next hinside =>
      obtain ⟨steps, hsteps⟩ := exists_shareAll_advanceTo { w.runUntilIdle with now := t } target
        hinside.2
      exact hmove steps (Nat.le_of_lt hinside.1) hsteps
    · exact hmove [] hle rfl
  termination_by target - w.now
  decreasing_by omega

/-- Commands that leave the schedule to the world are done step by step as well. -/
theorem exists_shareAll_obey (w : AuthWorld Connection) (command : AuthCommand) :
    ∃ steps, w.obey command = w.shareAll steps := by
  cases command with
  | idle => exact w.exists_shareAll_runUntilIdle
  | advance nanos => exact w.exists_shareAll_advanceTo _ (Nat.le_add_right _ _)
  | call request => exact ⟨[.gateway (.call request) rfl], rfl⟩
  | await => exact ⟨[.gateway .await rfl], rfl⟩
  | cancel id => exact ⟨[.gateway (.cancel id) rfl], rfl⟩
  | run id => exact ⟨[.gateway (.run id) rfl], rfl⟩
  | arrive id => exact ⟨[.gateway (.arrive id) rfl], rfl⟩
  | release => exact ⟨[.gateway .release rfl], rfl⟩
  | pass nanos => exact ⟨[.gateway (.pass nanos) rfl], rfl⟩

/-- What a step asks of the connection. A logout is asked for with the token of the session. -/
inductive Uses (w w' : AuthWorld Connection) : Prop where
  | rests (backend : w'.backend = w.backend) (calls : w'.calls = w.calls)
  | uses (purpose : Purpose) (backend : w'.backend = w.backend.use purpose)
    (calls : w'.calls = purpose.call?.toList ++ w.calls)
    (current : ∀ given, purpose = .call (.logout given) → given = w'.session.token?)

theorem share_retrieve (w : AuthWorld Connection) {α : Type} (decode? : String → Option α)
    (path : String) :
    w.share (.retrieve decode? path) = { w with backend := w.backend.use (.retrieval path) } := by
  rw [share, Connection.retrieve_snd]

theorem uses_share (w : AuthWorld Connection) (step : SharedStep) : w.Uses (w.share step) := by
  cases step with
  | retrieve decode? path =>
    refine .uses (.retrieval path) ?_ ?_ (fun _ h => by cases h)
    · rw [share_retrieve]
    · rw [share_retrieve, calls, calls]
      rfl
  | gateway command atomic =>
    rcases w.obey_cases atomic with ⟨w₀, a, hact, -, hbackend, hhistory⟩ | ⟨-, hbackend, hcalls, -⟩
    · have hsame : w₀.calls = w.calls := by rw [calls, hhistory]; rfl
      rcases w₀.act_asks a with ⟨hrests, hcalls⟩ | ⟨call, hserved, hcalls, hcurrent⟩
      · refine .rests ?_ ?_
        · rw [share, hact, hrests, hbackend]
        · rw [share, hact, hcalls, hsame]
      · refine .uses (.call call) ?_ ?_ ?_
        · rw [share, hact, hserved, hbackend, Connection.serve_snd]
        · rw [share, hact, hcalls, hsame]
          rfl
        · rw [share, hact]
          rintro given ⟨rfl⟩
          exact hcurrent given rfl
    · exact .rests hbackend hcalls

/-- A step makes one change at most, and the session has the token of it. -/
theorem share_token (w : AuthWorld Connection) (step : SharedStep) :
    ∃ change : Option SessionChange, (w.share step).changes = change.toList ++ w.changes ∧
      (w.share step).session.token? = w.gateway.store.tokenAfter change := by
  cases step with
  | retrieve decode? path =>
    refine ⟨none, ?_, ?_⟩
    · rw [share_retrieve, changes, changes]
      rfl
    · rw [share_retrieve]
      rfl
  | gateway command atomic =>
    rcases w.obey_cases atomic with
      ⟨w₀, a, hact, hgateway, -, hhistory⟩ | ⟨hgateway, -, -, hchanges⟩
    · obtain ⟨change, hchanges, htoken⟩ := w₀.act_token a
      refine ⟨change, ?_, ?_⟩
      · rw [share, hact, hchanges]
        simp only [changes, hhistory]
      · rw [share, hact, htoken, hgateway]
    · exact ⟨none, hchanges, congrArg (fun g : AuthGateway => g.store.token?) hgateway⟩

section

variable {w w' : AuthWorld Connection}

theorem Uses.baseUrl (h : w.Uses w') :
    w'.backend.client.baseUrl = w.backend.client.baseUrl := by
  cases h with
  | rests backend => rw [backend]
  | uses purpose backend => rw [backend, Connection.use_baseUrl]

theorem Uses.isReachable (h : w.Uses w') :
    w'.backend.server.isReachable = w.backend.server.isReachable := by
  cases h with
  | rests backend => rw [backend]
  | uses purpose backend => rw [backend, Connection.use_isReachable]

end

end AuthWorld

end DashboardClient
