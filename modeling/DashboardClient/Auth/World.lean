import DashboardClient.Auth.Progress
import DashboardClient.Watched

/-!
# A gateway on a backend

The gateway with a backend of any kind and a clock counting nanoseconds. Calls and tasks
that wait for a resolved session are numbered in the order in which they start. While the
clock stands, replies that are due arrive first, then waiting tasks end if the session is
resolved, then calls that are ready run in the order in which they started. Then the clock
moves to the instant of the next reply.
-/

namespace DashboardClient

/-- A reply on its way to a call. -/
structure PendingReply where
  id : Nat
  due : Nat
  reply : BackendReply

/-- The gateway with its backend, the time, the replies that are on their way, the tasks
that wait for a resolved session, how many calls and tasks were started, and all that has
happened, the latest first. -/
structure AuthWorld (σ : Type) where
  now : Nat := 0
  gateway : AuthGateway := {}
  backend : σ
  pending : List PendingReply := []
  waiters : List Nat := []
  started : Nat := 0
  receivers : Receivers := []
  history : List (Nat × AuthEvent) := []

namespace AuthWorld

variable {σ : Type} [Backend σ]

/-- The session as it stands. -/
def session (w : AuthWorld σ) : SessionState :=
  w.gateway.store.state

/-- The backend takes a call, and its reply is on its way. -/
def serve (w : AuthWorld σ) (id : Nat) (call : BackendCall) : AuthWorld σ :=
  let ((delay, reply), backend) := Backend.serve w.backend call
  match delay with
  | .immediate => { w with backend, pending := ⟨id, w.now, reply⟩ :: w.pending }
  | .after nanos => { w with backend, pending := w.pending ++ [⟨id, w.now + nanos, reply⟩] }
  | .never => { w with backend }

/-- Let a step of the gateway happen; a step makes at most one backend call. -/
def act (w : AuthWorld σ) (a : AuthAction) : AuthWorld σ :=
  let (gateway, events) := w.gateway.act a
  let w := { w with
    gateway
    history := (events.map fun e => (w.now, e)).reverse ++ w.history }
  match events.findSome? AuthEvent.sent? with
  | some (id, call) => w.serve id call
  | none => w

/-- The tasks that wait for a resolved session end with the state they see. -/
def releaseWaiters (w : AuthWorld σ) : AuthWorld σ :=
  let ended := w.waiters.map fun id => (w.now, AuthEvent.answered id (.session w.session))
  { w with waiters := [], history := ended.reverse ++ w.history }

/-- A reply has arrived. -/
def isDue (w : AuthWorld σ) (p : PendingReply) : Bool :=
  p.due ≤ w.now

/-- The call with this number would do something if it ran. -/
def runsNow (w : AuthWorld σ) (id : Nat) : Bool :=
  (w.gateway.call? id).any w.gateway.isReady

/-- The next step while the clock stands. -/
def step? (w : AuthWorld σ) : Option (AuthWorld σ) :=
  match w.pending.find? w.isDue with
  | some p =>
    some ({ w with pending := replaceFirst w.isDue none w.pending }.act (.reply p.id p.reply))
  | none =>
    if !w.waiters.isEmpty && !w.session.isResolving then some w.releaseWaiters
    else ((w.gateway.calls.map (·.id)).find? w.runsNow).map fun id => w.act (.run id)

/-- A bound on the steps that can still be taken while the clock stands. -/
def work (w : AuthWorld σ) : Nat :=
  2 * w.gateway.work + w.pending.length + w.waiters.length

theorem work_act_le (w : AuthWorld σ) (a : AuthAction) :
    (w.act a).work ≤ 2 * (w.gateway.act a).1.work + w.pending.length + w.waiters.length +
      (if (w.gateway.act a).2 = [] then 0 else 1) := by
  unfold act
  simp only
  cases hs : (w.gateway.act a).2.findSome? AuthEvent.sent? with
  | none => simp only [work]; omega
  | some s =>
    have hne : (w.gateway.act a).2 ≠ [] := by
      intro h
      simp [h] at hs
    simp only [hne, if_false, serve]
    split <;> simp only [work, List.length_cons, List.length_append, List.length_nil] <;> omega

theorem work_step_lt {w w' : AuthWorld σ} (h : w.step? = some w') : w'.work < w.work := by
  unfold step? at h
  split at h
  · next p hp =>
    rw [Option.some.injEq] at h
    subst h
    have hlen := totalWeight_replaceFirst (fun _ => 1) none hp
    simp only [totalWeight_one, weightOf] at hlen
    have hle := work_act_le { w with pending := replaceFirst w.isDue none w.pending }
      (.reply p.id p.reply)
    simp only [AuthGateway.act] at hle
    simp only [work] at hle ⊢
    cases hc : w.gateway.call? p.id with
    | none => simp only [hc, if_true] at hle; omega
    | some c =>
      have hid : c.id = p.id := by simpa using List.find?_some hc
      rw [← hid] at hc
      simp only [← hid, hc] at hle ⊢
      rcases AuthGateway.work_receive p.reply hc with hlt | heq
      · split at hle <;> omega
      · rw [heq] at hle
        simp only [if_true] at hle
        omega
  · split at h
    · next hw =>
      rw [Option.some.injEq] at h
      subst h
      simp only [Bool.and_eq_true, Bool.not_eq_true', List.isEmpty_eq_false_iff] at hw
      have : 0 < w.waiters.length := List.length_pos_iff.2 hw.1
      simp only [releaseWaiters, work, List.length_nil]
      omega
    · simp only [Option.map_eq_some_iff] at h
      obtain ⟨id, hid, rfl⟩ := h
      have hrun := List.find?_some hid
      simp only [runsNow, Option.any_eq_true] at hrun
      obtain ⟨c, hc, hready⟩ := hrun
      have hcid : c.id = id := by simpa using List.find?_some hc
      subst hcid
      have hlt := AuthGateway.work_run_lt hc hready
      have hle := work_act_le w (.run c.id)
      simp only [AuthGateway.act, hc] at hle
      simp only [work] at hle ⊢
      split at hle <;> omega

/-- Take steps until nothing is left to do while the clock stands. -/
def runUntilIdle (w : AuthWorld σ) : AuthWorld σ :=
  match _h : w.step? with
  | none => w
  | some w' => w'.runUntilIdle
  termination_by w.work
  decreasing_by exact work_step_lt _h

/-- The instant at which the next reply arrives. -/
def nextWake? (w : AuthWorld σ) : Option Nat :=
  ((w.pending.map (·.due)).filter (w.now < ·)).min?

/-- Run everything up to and including the instant `target`. -/
def advanceTo (w : AuthWorld σ) (target : Nat) : AuthWorld σ :=
  let idle := w.runUntilIdle
  match idle.nextWake? with
  | none => { idle with now := target }
  | some t =>
    if w.now < t ∧ t ≤ target then advanceTo { idle with now := t } target
    else { idle with now := target }
  termination_by target - w.now

/-- Let time pass. -/
def advance (w : AuthWorld σ) (nanos : Nat) : AuthWorld σ :=
  w.advanceTo (w.now + nanos)

/-- What the call or waiting task with this number has answered. -/
def answer? (w : AuthWorld σ) (id : Nat) : Option AuthAnswer :=
  w.history.findSome? fun (_, e) => e.answerOf? id

/-- The call or waiting task with this number has not ended. -/
def isLive (w : AuthWorld σ) (id : Nat) : Bool :=
  (w.gateway.call? id).isSome || w.waiters.contains id

/-- Start a call, numbered `w.started`, and let everything run while the clock stands. -/
def start (w : AuthWorld σ) (request : AuthRequest) : AuthWorld σ :=
  ({ w with started := w.started + 1 }.act (.start w.started request)).runUntilIdle

/-- Start a task, numbered `w.started`, that waits for a resolved session. -/
def await (w : AuthWorld σ) : AuthWorld σ :=
  { w with started := w.started + 1, waiters := w.waiters ++ [w.started] }.runUntilIdle

/-- Drop a call or a waiting task. -/
def cancel (w : AuthWorld σ) (id : Nat) : AuthWorld σ :=
  { w with
    waiters := w.waiters.filter (· != id)
    pending := w.pending.filter (·.id != id) }.act (.cancel id) |>.runUntilIdle

/-- Observe the session under a name; the current state counts as seen. -/
def subscribe (w : AuthWorld σ) (name : String) : AuthWorld σ :=
  { w with receivers := w.receivers.set name w.gateway.store.watched.subscribe }

end AuthWorld

end DashboardClient
