import DashboardClient.Proofs.Auth.Discipline
import DashboardClient.Proofs.Session.Waiting

/-!
# Waiting for the startup probe

Of all that a gateway writes, the end of the startup probe comes first. So tasks that wait for the
session to resolve wait for the probe: for the one that comes to its end, whoever ran it, and not
for those that were dropped before.
-/

namespace DashboardClient

-- ---------------------------------------------------------------------------
-- What the session tells of the probe
-- ---------------------------------------------------------------------------

theorem SessionChange.isResolving_apply (state : SessionState) (change : SessionChange) :
    (change.apply state).isResolving = (state.isResolving && !change.isBoundary) := by
  cases change with
  | tokenReplaced token => cases state <;> rfl
  | _ => simp [apply, SessionState.isResolving, isBoundary]

theorem SessionChange.isBoundary_of_isProbes {change : SessionChange}
    (probes : change.isProbes = true) : change.isBoundary = true := by
  cases change <;> first | rfl | cases probes

theorem SessionChange.commit_makes (store : SessionStore) (change : SessionChange) :
    ∃ n, Watched.Makes n store.watched (change.commit store).watched := by
  cases change with
  | tokenReplaced token => exact ⟨_, store.replaceToken_makes store.epoch token⟩
  | _ => exact ⟨1, Watched.Makes.write store.watched _⟩

namespace SessionStore

theorem replay_makes (store : SessionStore) (changes : List SessionChange) :
    ∃ n, Watched.Makes n store.watched (store.replay changes).watched := by
  induction changes generalizing store with
  | nil => exact ⟨0, .refl _⟩
  | cons change changes ih =>
    obtain ⟨m, hfirst⟩ := change.commit_makes store
    obtain ⟨n, hrest⟩ := ih (change.commit store)
    exact ⟨m + n, hfirst.trans hrest⟩

/-- What was resolved stays so. -/
theorem isResolving_replay (store : SessionStore) (changes : List SessionChange) :
    (store.replay changes).state.isResolving =
      (store.state.isResolving && changes.all (!·.isBoundary)) := by
  induction changes generalizing store with
  | nil => simp
  | cons change changes ih =>
    rw [replay_cons, ih, SessionChange.commit_state, SessionChange.isResolving_apply,
      List.all_cons, Bool.and_assoc]

end SessionStore

namespace AuthGateway

variable {g g' : AuthGateway} {a : AuthAction} {c : AuthCall} {es : List AuthEvent}

/-- The session of a new store is resolved exactly when the probe has come to its end. -/
theorem isResolving_history (actions : List AuthAction) :
    (history {} actions).1.store.state.isResolving = false ↔ (history {} actions).1.IsSettled := by
  obtain ⟨hsettled, hfirst⟩ := isProbes_iff_first {} actions
  have hstore : (history {} actions).1.store =
      SessionStore.replay {} (changesIn (history {} actions).2) := runAll_store {} actions
  rw [hsettled, hstore, SessionStore.isResolving_replay]
  cases hchanges : changesIn (history {} actions).2 with
  | nil => simp [SessionStore.state, SessionState.isResolving]
  | cons change later =>
    have hprobes := (hfirst [] change later hchanges).2 rfl
    simp [SessionChange.isBoundary_of_isProbes hprobes]

/-- The probe comes to its end with a reply to the call that runs it. -/
theorem Step.ends_probe (h : g.Step a g' es) (disciplined : g.IsDisciplined)
    (before : ¬g.IsSettled) (after : g'.IsSettled) :
    ∃ c reply change, a = .reply c.id reply ∧ g.call? c.id = some c ∧ c.stage.isProbing = true ∧
      .changed c.id change ∈ es ∧ change.isProbes = true := by
  cases h with
  | @settle c reply outcome change notice g' es live ends proceeds =>
    refine ⟨c, reply, change, rfl, live, ends.isProbing, ?_, ends.isProbes⟩
    exact List.mem_cons_of_mem _ List.mem_cons_self
  | probe => exact absurd after (not_isSettled_of_running rfl)
  | proceed _ _ ended => exact absurd ⟨_, ended⟩ before
  | finish live finishes => exact absurd (disciplined.settled_of_finishes live finishes) before
  | abandon => exact absurd after (not_isSettled_handOver _)
  | _ => exact absurd after before

/-- To drop a call does not bring the probe to its end. -/
theorem not_isSettled_cancel (disciplined : g.IsDisciplined) (before : ¬g.IsSettled) (id : Nat) :
    ¬(g.act (.cancel id)).1.IsSettled := by
  intro after
  obtain ⟨c, reply, change, hreply, -⟩ := (step_act g _).ends_probe disciplined before after
  cases hreply

end AuthGateway


-- ---------------------------------------------------------------------------
-- Tasks around the store of a gateway
-- ---------------------------------------------------------------------------

/-- A gateway, and those who wait around its store without writing it. -/
structure AuthRoom where
  gateway : AuthGateway := {}
  room : WaitingRoom := {}

/-- The gateway takes a step, or something is done around its store. -/
inductive AuthRoomAction where
  | gateway (a : AuthAction)
  | room (a : RoomAction)

namespace AuthRoom

def act (w : AuthRoom) : AuthRoomAction → AuthRoom
  | .gateway a =>
    let gateway := (w.gateway.act a).1
    { gateway, room := w.room.update gateway.store }
  | .room a => { w with room := w.room.act a }

/-- All that happens to a new gateway and around its store. -/
def course (steps : List AuthRoomAction) : AuthRoom :=
  steps.foldl act {}

theorem course_snoc (steps : List AuthRoomAction) (a : AuthRoomAction) :
    course (steps ++ [a]) = (course steps).act a :=
  List.foldl_append

/-- The gateway has a history of its own, its store is the one of the room, and nobody there has
slept through a change. -/
structure IsShared (w : AuthRoom) : Prop where
  history : ∃ actions, w.gateway = (AuthGateway.history {} actions).1
  store : w.room.hub.store = w.gateway.store
  attentive : w.room.IsAttentive

namespace IsShared

variable {w : AuthRoom}

theorem new : IsShared {} :=
  ⟨⟨[], rfl⟩, rfl, .new⟩

theorem act (h : w.IsShared) (a : AuthRoomAction) : (w.act a).IsShared := by
  cases a with
  | gateway a =>
    obtain ⟨actions, hgateway⟩ := h.history
    refine ⟨⟨actions ++ [a], ?_⟩, rfl, h.attentive.update ?_⟩
    · rw [AuthGateway.history_snoc, ← hgateway]
      rfl
    · rw [h.store, (AuthGateway.step_act w.gateway a).store_eq]
      exact w.gateway.store.replay_makes _
  | room a => exact ⟨h.history, (w.room.act_store a).trans h.store, h.attentive.act a⟩

theorem course (steps : List AuthRoomAction) : (AuthRoom.course steps).IsShared := by
  induction steps using List.reverseRecOn with
  | nil => exact new
  | append_singleton steps a ih => rw [course_snoc]; exact ih.act a

theorem isDisciplined (h : w.IsShared) : w.gateway.IsDisciplined := by
  obtain ⟨actions, hgateway⟩ := h.history
  exact hgateway ▸ AuthGateway.isDisciplined_history {} actions

theorem releasesIff (h : w.IsShared) : w.room.ReleasesIff w.gateway.IsSettled := by
  obtain ⟨actions, hgateway⟩ := h.history
  refine h.attentive.releasesIff ?_
  rw [h.store, hgateway]
  exact AuthGateway.isResolving_history actions

end IsShared

end AuthRoom

/-- However many tasks wait for the session to resolve, through whichever handles and whatever is
written and let go of meanwhile: no call ends before the first session begins; a call that ends does
so with the session as it stands, which is resolved, and never because nobody is left to write; once
a session has begun, every waiting task is told of it, running them in any order ends each call
once, and a later call ends at once. Around a gateway this is the end of the startup probe, which
comes with a reply to the call that runs it; dropping a call releases nobody. -/
theorem resolved_waits_for_first_boundary :
    (∀ actions, (WaitingRoom.course actions).1.ReleasesIff
      (boundariesIn (WaitingRoom.course actions).2 ≠ 0)) ∧
    ∀ steps, let w := AuthRoom.course steps
      w.room.hub.store = w.gateway.store ∧
      w.room.ReleasesIff w.gateway.IsSettled ∧
      (∀ id, ¬w.gateway.IsSettled → let next := w.act (.gateway (.cancel id))
        ¬next.gateway.IsSettled ∧ ∀ task, (next.room.run task).2 = none) ∧
      ∀ a, ¬w.gateway.IsSettled → (w.gateway.act a).1.IsSettled →
        ∃ c reply change, a = .reply c.id reply ∧ w.gateway.call? c.id = some c ∧
          c.stage.isProbing = true ∧ .changed c.id change ∈ (w.gateway.act a).2 ∧
          change.isProbes = true := by
  refine ⟨WaitingRoom.releasesIff_course, fun steps => ?_⟩
  intro w
  have hshared : w.IsShared := .course steps
  refine ⟨hshared.store, hshared.releasesIff, ?cancelled, ?completed⟩
  case cancelled =>
    intro id before next
    have hafter : ¬next.gateway.IsSettled :=
      AuthGateway.not_isSettled_cancel hshared.isDisciplined before id
    exact ⟨hafter, (hshared.act (.gateway (.cancel id))).releasesIff.early hafter⟩
  case completed =>
    intro a before after
    exact (AuthGateway.step_act w.gateway a).ends_probe hshared.isDisciplined before after

/-- Two tasks wait while the main handle is let go of and the probe is dropped. Another call runs it
again, and its end releases both. -/
theorem waiters_released_after_dropped_probe :
    let before : List AuthRoomAction :=
      [.room (.clone "main" "copy"), .room (.await "main" "early"), .room (.run "early"),
        .gateway (.start 1 .probe), .gateway (.run 1), .room (.release "main"),
        .room (.await "copy" "late"), .gateway (.cancel 1), .room (.run "early"),
        .gateway (.start 2 .probe), .gateway (.run 2)]
    let w := AuthRoom.course before
    let reply : AuthAction := .reply 2 (.failed .unauthorized)
    let settled := AuthRoom.course (before ++ [.gateway reply])
    (∀ task, (w.room.run task).2 = none) ∧
    (∀ task, ((w.act (.gateway (.cancel 2))).room.run task).2 = none) ∧
    (∃ change, .changed 2 change ∈ (w.gateway.act reply).2 ∧ change.isProbes = true) ∧
    (settled.room.run "early").2 = some (.resolved .anonymous) ∧
    (settled.room.runAll ["late", "early"]).1.hub.waiters = [] := by
  intro before w reply settled
  obtain ⟨-, shared⟩ := resolved_waits_for_first_boundary
  obtain ⟨-, waits, dropped, completed⟩ := shared before
  obtain ⟨-, ends, -⟩ := shared (before ++ [.gateway reply])
  have running : w.gateway.probe = .running 2 := rfl
  have unsettled : ¬w.gateway.IsSettled := AuthGateway.not_isSettled_of_running running
  have crossed : settled.gateway.IsSettled := ⟨.ok .anonymous, rfl⟩
  refine ⟨waits.early unsettled, (dropped 2 unsettled).2, ?_, ?_, ?_⟩
  · obtain ⟨c, answer, change, hreply, -, -, changed, probes⟩ := completed reply unsettled crossed
    have hid : 2 = c.id := (AuthAction.reply.inj hreply).1
    exact ⟨change, hid ▸ changed, probes⟩
  · exact (ends.released crossed "early" (by decide +kernel)).2
  · exact (ends.served crossed ["late", "early"] (by decide +kernel)).1

end DashboardClient
