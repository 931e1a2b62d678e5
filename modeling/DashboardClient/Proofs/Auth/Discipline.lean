import DashboardClient.Proofs.Auth.Calls

/-!
# The discipline of the probe

What holds of a gateway after every run: the startup probe has at most one holder, who is a
live call that runs it or is about to; everyone in the queue waits; and no call does business
of its own before the probe has settled. A pending refresh remembers an epoch that is over or
is the one of the session that is still authenticated.
-/

namespace DashboardClient

namespace AuthGateway

variable {g g' : AuthGateway} {a : AuthAction} {c : AuthCall} {es : List AuthEvent}
  {outcome : Except AuthError SessionPhase}

/-- The call may be at its stage. -/
def Admits (g : AuthGateway) (c : AuthCall) : Prop :=
  match c.stage with
  | .ready => True
  | .queued => g.IsSettled ∨ g.probe = .running c.id ∨ c.id ∈ g.queue
  | .probingIdentity => g.probe = .running c.id
  | .probingToken _ => g.probe = .running c.id
  | .loggingIn _ => g.IsSettled ∧ ∃ identity secret, c.request = .login identity secret
  | .loggingOut => g.IsSettled ∧ c.request = .logout
  | .refreshing epoch =>
    g.IsSettled ∧ c.request = .refreshToken ∧ epoch ≤ g.store.epoch ∧
      (epoch = g.store.epoch → g.store.phase = .authenticated)

structure IsDisciplined (g : AuthGateway) : Prop where
  distinct : (g.calls.map (·.id)).Nodup
  admitted : ∀ {id c}, g.call? id = some c → g.Admits c
  /-- The holder of the probe runs it or is the next to run it, and has left the queue. -/
  held : ∀ {holder}, g.probe = .running holder → holder ∉ g.queue ∧
    ∃ c, g.call? holder = some c ∧ (c.stage = .queued ∨ c.stage.isProbing = true)
  waiting : ∀ {id}, id ∈ g.queue → ∃ c, g.call? id = some c ∧ c.stage = .queued
  /-- Nobody waits for a probe that nobody holds. -/
  attended : g.queue ≠ [] → ∃ holder, g.probe = .running holder
  lined : g.queue.Nodup

theorem call?_id {id : Nat} (live : g.call? id = some c) : c.id = id :=
  key_of_find? live

namespace IsDisciplined

theorem new (store : SessionStore) : IsDisciplined { store } where
  distinct := List.nodup_nil
  admitted h := nomatch h
  held h := nomatch h
  waiting h := nomatch h
  attended h := absurd rfl h
  lined := List.nodup_nil

theorem queue_eq_nil (h : g.IsDisciplined) (free : ∀ holder, g.probe ≠ .running holder) :
    g.queue = [] := by
  by_contra hne
  obtain ⟨holder, hp⟩ := h.attended hne
  exact free holder hp

theorem queue_eq_nil_of_settled (h : g.IsDisciplined) (ended : g.IsSettled) : g.queue = [] := by
  obtain ⟨outcome, ho⟩ := ended
  refine h.queue_eq_nil ?_
  intro holder hp
  rw [ho] at hp
  cases hp

/-- Before the probe first runs, no call has got anywhere. -/
theorem ready_of_unstarted (h : g.IsDisciplined) (unstarted : g.probe = .unstarted) {id : Nat}
    (live : g.call? id = some c) : c.stage = .ready := by
  have hadmits := h.admitted live
  have hqueue : g.queue = [] := h.queue_eq_nil (by simp [unstarted])
  unfold Admits IsSettled at hadmits
  cases hs : c.stage with
  | ready => rfl
  | _ => simp [hs, unstarted, hqueue] at hadmits

theorem waits_of_queued (h : g.IsDisciplined) {id : Nat} (live : g.call? id = some c)
    (queued : c.stage = .queued) :
    g.IsSettled ∨ g.probe = .running c.id ∨ c.id ∈ g.queue := by
  have hadmits := h.admitted live
  simpa only [Admits, queued] using hadmits

/-- While a call holds the probe, the others are at their start or in the queue. -/
theorem waits_of_running (h : g.IsDisciplined) {holder id : Nat}
    (running : g.probe = .running holder) (live : g.call? id = some c) (other : id ≠ holder) :
    c.stage = .ready ∨ c.stage = .queued ∧ id ∈ g.queue := by
  have hadmits := h.admitted live
  obtain rfl := call?_id live
  unfold Admits IsSettled at hadmits
  cases hs : c.stage with
  | ready => exact Or.inl rfl
  | queued =>
    rw [hs] at hadmits
    simp only [running, reduceCtorEq, exists_false, Probe.running.injEq, false_or] at hadmits
    exact Or.inr ⟨rfl, hadmits.resolve_left (Ne.symm other)⟩
  | _ => simp [hs, running, Ne.symm other] at hadmits

/-- A call that runs the probe holds it. -/
theorem running_of_isProbing (h : g.IsDisciplined) (live : g.call? c.id = some c)
    (probing : c.stage.isProbing = true) : g.probe = .running c.id := by
  have hadmits := h.admitted live
  unfold Admits at hadmits
  cases hs : c.stage with
  | probingIdentity => simpa [hs] using hadmits
  | probingToken identity => simpa [hs] using hadmits
  | _ => simp [hs, AuthStage.isProbing] at probing

/-- Once the probe has settled, nobody runs it. -/
theorem not_isProbing_of_settled (h : g.IsDisciplined) (ended : g.IsSettled) {id : Nat}
    (live : g.call? id = some c) : c.stage.isProbing = false := by
  obtain rfl := call?_id live
  obtain ⟨outcome, ho⟩ := ended
  by_contra hprobing
  cases ho.symm.trans (h.running_of_isProbing live (by simpa using hprobing))

/-- A call that does business of its own does it after the probe. -/
theorem settled_of_finishes (h : g.IsDisciplined) (live : g.call? c.id = some c)
    {reply : BackendReply} {change : Option SessionChange} {answer : AuthAnswer}
    (finishes : Finishes g.store c.id c.stage reply change answer es) : g.IsSettled := by
  have hadmits := h.admitted live
  unfold Admits at hadmits
  generalize c.stage = stage at hadmits finishes
  cases finishes <;> exact hadmits.1

end IsDisciplined


-- ---------------------------------------------------------------------------
-- What calls may go on to
-- ---------------------------------------------------------------------------

/-- A call that makes its own backend call after the probe may wait for the reply. -/
theorem admits_of_sends {stage : AuthStage} {call : BackendCall} (ended : g.IsSettled)
    (sends : c.request.Sends g.store stage call) :
    g.Admits { c with stage } := by
  obtain ⟨id, request, before⟩ := c
  cases sends with
  | login => exact ⟨ended, _, _, rfl⟩
  | logout => exact ⟨ended, rfl⟩
  | refresh authenticated => exact ⟨ended, rfl, Nat.le_refl _, fun _ => authenticated⟩

/-- A call may stay where it is whatever happens to the session, if it may as far as the
probe goes. -/
theorem Admits.mono {changes : List SessionChange} (h : g.Admits c)
    (store : g'.store = g.store.replay changes) (ended : g.IsSettled → g'.IsSettled)
    (queued : c.stage = .queued →
      g'.IsSettled ∨ g'.probe = .running c.id ∨ c.id ∈ g'.queue)
    (probing : c.stage.isProbing = true → g'.probe = .running c.id) : g'.Admits c := by
  unfold Admits at h ⊢
  cases hs : c.stage with
  | ready => trivial
  | queued => exact queued hs
  | probingIdentity => exact probing (by rw [hs]; rfl)
  | probingToken identity => exact probing (by rw [hs]; rfl)
  | loggingIn identity =>
    rw [hs] at h
    exact ⟨ended h.1, h.2⟩
  | loggingOut =>
    rw [hs] at h
    exact ⟨ended h.1, h.2⟩
  | refreshing epoch =>
    rw [hs] at h
    obtain ⟨hover, hrequest, hle, hphase⟩ := h
    have hgrows : g.store.epoch ≤ g'.store.epoch := store ▸ g.store.epoch_le_replay changes
    refine ⟨ended hover, hrequest, Nat.le_trans hle hgrows, ?_⟩
    intro hepoch
    -- No session began or ended since the fetch, so the one it was for still lasts.
    have hsame : g.store.epoch = g'.store.epoch := Nat.le_antisymm hgrows (hepoch ▸ hle)
    obtain ⟨identity, token, hstate⟩ :=
      (g.store.phase_eq_authenticated_iff).1 (hphase (hepoch.trans hsame.symm))
    have hinside := (g.store.replay_epoch_eq_iff changes).1 (store ▸ hsame.symm)
    rw [store, SessionStore.phase_eq_authenticated_iff]
    exact ⟨identity, SessionStore.replay_of_not_boundary hinside hstate⟩

theorem Proceeds.admitted (h : g.Proceeds c outcome g' es) (live : g.call? c.id = some c)
    (distinct : (g.calls.map (·.id)).Nodup) (ended : g.IsSettled) {d : AuthCall}
    (own : g'.call? c.id = some d) : g'.Admits d := by
  cases h with
  | decline => cases (call?_remove_self distinct).symm.trans own
  | send sends =>
    obtain rfl := Option.some.inj ((call?_moveTo_self live _).symm.trans own)
    exact admits_of_sends (g := g.moveTo c _) ended sends

/-- The outcome of the probe is kept for good. -/
theorem Step.outcome_eq (h : g.Step a g' es) (disciplined : g.IsDisciplined)
    (ended : g.probe = .settled outcome) : g'.probe = .settled outcome := by
  cases h with
  | probe live free => rcases free with ⟨_, hp⟩ | ⟨_, hp⟩ <;> cases ended.symm.trans hp
  | proceed live stage settled proceeds => exact proceeds.probe_eq.trans ended
  | settle live ends proceeds =>
    cases ended.symm.trans (disciplined.running_of_isProbing live ends.isProbing)
  | abandon live holds => cases ended.symm.trans holds
  | _ => exact ended

theorem Step.settled (h : g.Step a g' es) (disciplined : g.IsDisciplined) (ended : g.IsSettled) :
    g'.IsSettled := by
  obtain ⟨outcome, ho⟩ := ended
  exact ⟨outcome, h.outcome_eq disciplined ho⟩


-- ---------------------------------------------------------------------------
-- Every step keeps the discipline
-- ---------------------------------------------------------------------------

/-- To look at the calls after a step, look at its caller, and at how the others wait. -/
theorem Step.admitted (h : g.Step a g' es) (disciplined : g.IsDisciplined)
    (own : ∀ {c}, g'.call? a.caller = some c → g'.Admits c)
    (others : ∀ {c}, g.call? c.id = some c → c.id ≠ a.caller →
      (c.stage = .queued → g'.IsSettled ∨ g'.probe = .running c.id ∨ c.id ∈ g'.queue) ∧
      (c.stage.isProbing = true → g'.probe = .running c.id)) {id : Nat}
    (live : g'.call? id = some c) : g'.Admits c := by
  obtain rfl := call?_id live
  by_cases hid : c.id = a.caller
  · exact own (hid ▸ live)
  · rw [h.call?_of_ne hid] at live
    obtain ⟨hqueued, hprobing⟩ := others live hid
    exact (disciplined.admitted live).mono h.store_eq (h.settled disciplined) hqueued hprobing

namespace IsDisciplined

theorem arrive (h : g.IsDisciplined) {id : Nat} {request : AuthRequest}
    (fresh : g.call? id = none) :
    IsDisciplined { g with calls := g.calls ++ [{ id, request }] } := by
  have hstep : g.Step (.start id request) _ [] := .arrive fresh
  have hstays {id' : Nat} {c : AuthCall} (live : g.call? id' = some c) :
      ({ g with calls := g.calls ++ [{ id, request }] } : AuthGateway).call? id' = some c := by
    have hne : id' ≠ id := by
      rintro rfl
      rw [fresh] at live
      cases live
    rw [hstep.call?_of_ne hne, live]
  refine ⟨hstep.distinct h.distinct, ?_, ?_, ?_, h.attended, h.lined⟩
  · intro id' c live
    rw [call?_arrive fresh] at live
    split at live
    · cases live
      trivial
    · exact h.admitted live
  · intro holder hp
    obtain ⟨hq, c, live, hs⟩ := h.held hp
    exact ⟨hq, c, hstays live, hs⟩
  · intro id' hq
    obtain ⟨c, live, hs⟩ := h.waiting hq
    exact ⟨c, hstays live, hs⟩

theorem probe (h : g.IsDisciplined) (live : g.call? c.id = some c)
    (free : c.stage = .ready ∧ g.probe = .unstarted ∨
      c.stage = .queued ∧ g.probe = .running c.id) :
    ({ g with probe := .running c.id }.moveTo c .probingIdentity).IsDisciplined := by
  have hstep := Step.probe live free
  have hself := call?_probe_self live
  have hleft : c.id ∉ g.queue := by
    rcases free with ⟨_, hp⟩ | ⟨_, hp⟩
    · rw [h.queue_eq_nil (by simp [hp])]
      exact List.not_mem_nil
    · exact (h.held hp).1
  refine ⟨hstep.distinct h.distinct, hstep.admitted h ?_ ?_, ?_, ?_, ?_, h.lined⟩
  · intro d hd
    obtain rfl := Option.some.inj (hself.symm.trans hd)
    exact rfl
  · intro d hd hne
    rcases free with ⟨_, hp⟩ | ⟨_, hp⟩
    · have hs := h.ready_of_unstarted hp hd
      simp [hs, AuthStage.isProbing]
    · rcases h.waits_of_running hp hd hne with hs | ⟨hs, hq⟩
      · simp [hs, AuthStage.isProbing]
      · exact ⟨fun _ => Or.inr (Or.inr hq), by simp [hs, AuthStage.isProbing]⟩
  · intro holder hp
    obtain rfl := Probe.running.inj hp
    exact ⟨hleft, _, hself, Or.inr rfl⟩
  · intro id hq
    have hne : id ≠ c.id := fun he => hleft (he ▸ hq)
    rw [hstep.call?_of_ne hne]
    exact h.waiting hq
  · intro _
    exact ⟨c.id, rfl⟩

theorem enqueue (h : g.IsDisciplined) {holder : Nat} (live : g.call? c.id = some c)
    (ready : c.stage = .ready) (running : g.probe = .running holder) :
    IsDisciplined { g.moveTo c .queued with queue := g.queue ++ [c.id] } := by
  have hstep := Step.enqueue live ready running
  have hself : ({ g.moveTo c .queued with queue := g.queue ++ [c.id] } : AuthGateway).call? c.id =
      some { c with stage := .queued } := call?_moveTo_self live .queued
  have hfresh : c.id ∉ g.queue := by
    intro hq
    obtain ⟨d, hd, hs⟩ := h.waiting hq
    obtain rfl := Option.some.inj (live.symm.trans hd)
    rw [ready] at hs
    cases hs
  have hother : holder ≠ c.id := by
    rintro rfl
    obtain ⟨_, d, hd, hs⟩ := h.held running
    obtain rfl := Option.some.inj (live.symm.trans hd)
    simp [ready, AuthStage.isProbing] at hs
  refine ⟨hstep.distinct h.distinct, hstep.admitted h ?_ ?_, ?_, ?_, ?_, ?_⟩
  · intro d hd
    obtain rfl := Option.some.inj (hself.symm.trans hd)
    exact Or.inr (Or.inr (List.mem_append_right _ List.mem_cons_self))
  · intro d hd hne
    refine ⟨?_, h.running_of_isProbing hd⟩
    intro hs
    rcases h.waits_of_queued hd hs with hover | hp | hq
    · exact Or.inl hover
    · exact Or.inr (Or.inl hp)
    · exact Or.inr (Or.inr (List.mem_append_left _ hq))
  · intro holder' hp
    obtain rfl := Probe.running.inj (running.symm.trans hp)
    obtain ⟨hq, d, hd, hs⟩ := h.held running
    refine ⟨?_, d, ?_, hs⟩
    · simp [hq, hother]
    · rw [hstep.call?_of_ne hother]
      exact hd
  · intro id hq
    rcases List.mem_append.1 hq with hq | hq
    · have hne : id ≠ c.id := fun he => hfresh (he ▸ hq)
      rw [hstep.call?_of_ne hne]
      exact h.waiting hq
    · obtain rfl := List.mem_singleton.1 hq
      exact ⟨_, hself, rfl⟩
  · intro _
    exact ⟨holder, running⟩
  · exact (List.perm_append_singleton c.id g.queue).nodup_iff.2
      (List.nodup_cons.2 ⟨hfresh, h.lined⟩)

theorem identify (h : g.IsDisciplined) {identity : String} (live : g.call? c.id = some c)
    (stage : c.stage = .probingIdentity) :
    (g.moveTo c (.probingToken identity)).IsDisciplined := by
  have hstep : g.Step (.reply c.id (.identity identity)) _ _ := .identify live stage
  have hself := call?_moveTo_self live (.probingToken identity)
  have hp : g.probe = .running c.id := h.running_of_isProbing live (by rw [stage]; rfl)
  have hleft : c.id ∉ g.queue := (h.held hp).1
  refine ⟨hstep.distinct h.distinct, hstep.admitted h ?_ ?_, ?_, ?_, h.attended, h.lined⟩
  · intro d hd
    obtain rfl := Option.some.inj (hself.symm.trans hd)
    exact hp
  · intro d hd hne
    refine ⟨?_, h.running_of_isProbing hd⟩
    intro hs
    rcases h.waits_of_running hp hd hne with hs' | ⟨_, hq⟩
    · rw [hs'] at hs
      cases hs
    · exact Or.inr (Or.inr hq)
  · intro holder hp'
    obtain rfl := Probe.running.inj (hp.symm.trans hp')
    exact ⟨hleft, _, hself, Or.inr rfl⟩
  · intro id hq
    have hne : id ≠ c.id := fun he => hleft (he ▸ hq)
    rw [hstep.call?_of_ne hne]
    exact h.waiting hq

/-- Once the probe has settled, nothing is asked of the queue any more. -/
theorem of_settled (h : g.IsDisciplined) (step : g.Step a g' es) (ended : g'.IsSettled)
    (queue : g'.queue = []) (own : ∀ {c}, g'.call? a.caller = some c → g'.Admits c)
    (others : ∀ {c}, g.call? c.id = some c → c.id ≠ a.caller → c.stage.isProbing = false) :
    g'.IsDisciplined := by
  refine ⟨step.distinct h.distinct, step.admitted h own ?_, ?_, ?_, ?_, ?_⟩
  · intro d hd hne
    refine ⟨fun _ => Or.inl ended, ?_⟩
    rw [others hd hne]
    exact nofun
  · intro holder hp
    obtain ⟨outcome, ho⟩ := ended
    rw [ho] at hp
    cases hp
  · simp [queue]
  · simp [queue]
  · rw [queue]
    exact List.nodup_nil

theorem proceed (h : g.IsDisciplined) (live : g.call? c.id = some c)
    (stage : c.stage = .ready ∨ c.stage = .queued) (ended : g.probe = .settled outcome)
    (proceeds : g.Proceeds c outcome g' es) : g'.IsDisciplined := by
  have hover : g.IsSettled := ⟨outcome, ended⟩
  have hstep := Step.proceed live stage ended proceeds
  have hqueue := proceeds.queue_eq.trans (h.queue_eq_nil_of_settled hover)
  exact h.of_settled hstep (hstep.settled h hover) hqueue
    (proceeds.admitted live h.distinct hover) (fun hd _ => h.not_isProbing_of_settled hover hd)

theorem settle (h : g.IsDisciplined) {reply : BackendReply} {change : SessionChange}
    {notice : AuthNotice} (live : g.call? c.id = some c)
    (ends : ProbeEnds c.stage reply outcome change notice)
    (proceeds : (g.settled change outcome).Proceeds c outcome g' es) : g'.IsDisciplined := by
  have hover : (g.settled change outcome).IsSettled := ⟨outcome, rfl⟩
  have hp : g.probe = .running c.id := h.running_of_isProbing live ends.isProbing
  refine h.of_settled (.settle live ends proceeds) ⟨outcome, proceeds.probe_eq⟩ proceeds.queue_eq
    (proceeds.admitted live h.distinct hover) ?_
  intro d hd hne
  rcases h.waits_of_running hp hd hne with hs | ⟨hs, _⟩ <;> rw [hs] <;> rfl

theorem finish (h : g.IsDisciplined) {reply : BackendReply} {change : Option SessionChange}
    {answer : AuthAnswer} (live : g.call? c.id = some c)
    (finishes : Finishes g.store c.id c.stage reply change answer es) :
    (g.finished c change).IsDisciplined := by
  have hover : g.IsSettled := h.settled_of_finishes live finishes
  have hgone : (g.finished c change).call? c.id = none := call?_remove_self h.distinct
  refine h.of_settled (.finish live finishes) hover (h.queue_eq_nil_of_settled hover) ?_
    (fun hd _ => h.not_isProbing_of_settled hover hd)
  intro d hd
  cases hgone.symm.trans hd

theorem abandon (h : g.IsDisciplined) (live : g.call? c.id = some c)
    (holds : g.probe = .running c.id) :
    (g.finished c c.stage.lastChange).handOver.IsDisciplined := by
  have hstep := Step.abandon live holds
  have hgone : (g.finished c c.stage.lastChange).handOver.call? c.id = none :=
    (handOver_call? _ c.id).trans (call?_remove_self h.distinct)
  have hleft : c.id ∉ g.queue := (h.held holds).1
  have hstays {id : Nat} (hq : id ∈ g.queue) :
      ∃ d, (g.finished c c.stage.lastChange).handOver.call? id = some d ∧ d.stage = .queued := by
    have hne : id ≠ c.id := fun he => hleft (he ▸ hq)
    rw [hstep.call?_of_ne hne]
    exact h.waiting hq
  have hown {d : AuthCall} (hd : (g.finished c c.stage.lastChange).handOver.call? c.id = some d) :
      (g.finished c c.stage.lastChange).handOver.Admits d := nomatch hgone.symm.trans hd
  cases hqueue : g.queue with
  | nil =>
    obtain ⟨hp, hq⟩ := handOver_of_nil (g := g.finished c c.stage.lastChange) hqueue
    refine ⟨hstep.distinct h.distinct, hstep.admitted h hown ?_, ?_, ?_, ?_, ?_⟩
    · intro d hd hne
      rcases h.waits_of_running holds hd hne with hs | ⟨_, hmem⟩
      · simp [hs, AuthStage.isProbing]
      · simp [hqueue] at hmem
    · simp [hp]
    · simp [hq]
    · simp [hq]
    · simp [hq]
  | cons next rest =>
    obtain ⟨hp, hq⟩ := handOver_of_cons (g := g.finished c c.stage.lastChange) hqueue
    have hlined := h.lined
    rw [hqueue, List.nodup_cons] at hlined
    refine ⟨hstep.distinct h.distinct, hstep.admitted h hown ?_, ?_, ?_, ?_, ?_⟩
    · intro d hd hne
      rw [hp, hq]
      rcases h.waits_of_running holds hd hne with hs | ⟨hs, hmem⟩
      · simp [hs, AuthStage.isProbing]
      · rw [hqueue] at hmem
        rcases List.mem_cons.1 hmem with rfl | hmem
        · simp [hs, AuthStage.isProbing]
        · simp [hs, hmem, AuthStage.isProbing]
    · intro holder hp'
      obtain rfl := Probe.running.inj (hp.symm.trans hp')
      have hfirst : next ∈ g.queue := hqueue ▸ List.mem_cons_self
      obtain ⟨d, hd, hs⟩ := hstays hfirst
      exact ⟨hq ▸ hlined.1, d, hd, Or.inl hs⟩
    · intro id hmem
      rw [hq] at hmem
      exact hstays (by simp [hqueue, hmem])
    · intro _
      exact ⟨next, hp⟩
    · rw [hq]
      exact hlined.2

theorem withdraw (h : g.IsDisciplined) (live : g.call? c.id = some c)
    (free : g.probe ≠ .running c.id) :
    IsDisciplined { g.finished c c.stage.lastChange with
      queue := g.queue.filter (· != c.id) } := by
  have hstep := Step.withdraw live free
  have hmem {id : Nat} : id ∈ g.queue.filter (· != c.id) ↔ id ∈ g.queue ∧ id ≠ c.id := by
    simp
  refine ⟨hstep.distinct h.distinct, hstep.admitted h ?_ ?_, ?_, ?_, ?_, h.lined.filter _⟩
  · intro d hd
    cases (call?_remove_self h.distinct).symm.trans hd
  · intro d hd hne
    refine ⟨?_, h.running_of_isProbing hd⟩
    intro hs
    rcases h.waits_of_queued hd hs with hover | hp | hq
    · exact Or.inl hover
    · exact Or.inr (Or.inl hp)
    · exact Or.inr (Or.inr (hmem.2 ⟨hq, hne⟩))
  · intro holder hp
    have hne : holder ≠ c.id := by
      rintro rfl
      exact free hp
    obtain ⟨hq, d, hd, hs⟩ := h.held hp
    refine ⟨fun hq' => hq (hmem.1 hq').1, d, ?_, hs⟩
    rw [hstep.call?_of_ne hne]
    exact hd
  · intro id hq
    obtain ⟨hq, hne⟩ := hmem.1 hq
    rw [hstep.call?_of_ne hne]
    exact h.waiting hq
  · intro hne
    exact h.attended (fun hq => hne (by simp [hq]))

end IsDisciplined

theorem Step.isDisciplined (h : g.Step a g' es) (disciplined : g.IsDisciplined) :
    g'.IsDisciplined := by
  cases h with
  | stay => exact disciplined
  | arrive fresh => exact disciplined.arrive fresh
  | probe live free => exact disciplined.probe live free
  | enqueue live stage running => exact disciplined.enqueue live stage running
  | proceed live stage ended proceeds => exact disciplined.proceed live stage ended proceeds
  | identify live stage => exact disciplined.identify live stage
  | settle live ends proceeds => exact disciplined.settle live ends proceeds
  | finish live finishes => exact disciplined.finish live finishes
  | abandon live holds => exact disciplined.abandon live holds
  | withdraw live free => exact disciplined.withdraw live free

/-- Whatever calls come and go, and however their steps interleave. -/
theorem isDisciplined_history (store : SessionStore) (actions : List AuthAction) :
    (history store actions).1.IsDisciplined :=
  runAll_induct (.new store) Step.isDisciplined actions


-- ---------------------------------------------------------------------------
-- When the session changes
-- ---------------------------------------------------------------------------

theorem not_isSettled_of_running {holder : Nat} (running : g.probe = .running holder) :
    ¬g.IsSettled := by
  rintro ⟨outcome, ho⟩
  cases running.symm.trans ho

theorem not_isSettled_handOver (g : AuthGateway) : ¬g.handOver.IsSettled := by
  rintro ⟨outcome, ho⟩
  cases hq : g.queue with
  | nil => cases (handOver_of_nil hq).1.symm.trans ho
  | cons next rest => cases (handOver_of_cons hq).1.symm.trans ho

theorem IsDisciplined.lastChange_cases (h : g.IsDisciplined) {id : Nat}
    (live : g.call? id = some c) :
    c.stage.lastChange = none ∨ c.stage.lastChange = some .loggedOut ∧ g.IsSettled := by
  have hadmits := h.admitted live
  unfold Admits at hadmits
  cases hs : c.stage with
  | loggingOut =>
    rw [hs] at hadmits
    exact Or.inr ⟨rfl, hadmits.1⟩
  | _ => exact Or.inl rfl

/-- The end of the probe comes first, and once; every other change comes after it. -/
theorem Step.change_cases (h : g.Step a g' es) (disciplined : g.IsDisciplined) :
    (changesIn es = [] ∧ (g'.IsSettled ↔ g.IsSettled)) ∨
      ∃ change, changesIn es = [change] ∧ g'.IsSettled ∧
        (change.isProbes = true ↔ ¬g.IsSettled) := by
  cases h with
  | probe live free =>
    have hbefore : ¬g.IsSettled := by
      rcases free with ⟨_, hp⟩ | ⟨_, hp⟩
      · rintro ⟨outcome, ho⟩
        cases hp.symm.trans ho
      · exact not_isSettled_of_running hp
    exact Or.inl ⟨rfl, iff_of_false (not_isSettled_of_running rfl) hbefore⟩
  | proceed live stage ended proceeds =>
    refine Or.inl ⟨proceeds.changesIn_eq, ?_⟩
    rw [IsSettled, IsSettled, proceeds.probe_eq]
  | @settle c reply outcome change notice g' es live ends proceeds =>
    have hp := disciplined.running_of_isProbing live ends.isProbing
    refine Or.inr ⟨change, ?_, ⟨outcome, proceeds.probe_eq⟩, ?_⟩
    · simp [AuthEvent.change?, proceeds.changesIn_eq]
    · exact iff_of_true ends.isProbes (not_isSettled_of_running hp)
  | @finish c reply change answer es live finishes =>
    have hover : g.IsSettled := disciplined.settled_of_finishes live finishes
    have hchanges : changesIn (es ++ [.answered c.id answer]) = change.toList := by
      simp [finishes.changesIn_eq, AuthEvent.change?]
    cases change with
    | none => exact Or.inl ⟨hchanges, Iff.rfl⟩
    | some change =>
      refine Or.inr ⟨change, hchanges, hover, ?_⟩
      simp [finishes.isProbes_eq_false, hover]
  | @abandon c live holds =>
    have hnone := (disciplined.lastChange_cases live).resolve_right
      (fun h => not_isSettled_of_running holds h.2)
    exact Or.inl ⟨by simp [hnone, AuthEvent.change?],
      iff_of_false (not_isSettled_handOver _) (not_isSettled_of_running holds)⟩
  | @withdraw c live free =>
    rcases disciplined.lastChange_cases live with hnone | ⟨hout, hover⟩
    · exact Or.inl ⟨by simp [hnone, AuthEvent.change?], Iff.rfl⟩
    · refine Or.inr ⟨.loggedOut, by simp [hout, AuthEvent.change?], hover, ?_⟩
      simp [hover, SessionChange.isProbes]
  | _ => exact Or.inl ⟨rfl, Iff.rfl⟩

/-- The first change of the session is the end of the probe, and no other change is. -/
theorem isProbes_iff_first (store : SessionStore) (actions : List AuthAction) :
    ((history store actions).1.IsSettled ↔ changesIn (history store actions).2 ≠ []) ∧
    ∀ before change after, changesIn (history store actions).2 = before ++ change :: after →
      (change.isProbes = true ↔ before = []) := by
  induction actions using List.reverseRecOn with
  | nil =>
    refine ⟨iff_of_false ?_ (fun h => h rfl), ?_⟩
    · rintro ⟨outcome, ho⟩
      cases ho
    · intro before change after hlog
      cases before <;> cases hlog
  | append_singleton actions a ih =>
    rw [history_snoc, changesIn_append]
    rcases (step_act _ a).change_cases (isDisciplined_history store actions) with
      ⟨hnone, hsettled⟩ | ⟨last, hlast, hsettled, hprobes⟩
    · rw [hnone, hsettled, List.append_nil]
      exact ih
    · rw [hlast]
      refine ⟨iff_of_true hsettled (by simp), ?_⟩
      intro before change after hlog
      rcases List.eq_nil_or_concat after with rfl | ⟨after, last', rfl⟩
      · obtain ⟨rfl, rfl⟩ := List.append_singleton_inj.1 hlog
        rw [hprobes, ih.1, not_not]
      · rw [List.concat_eq_append, ← List.cons_append, ← List.append_assoc] at hlog
        exact ih.2 before change after (List.append_singleton_inj.1 hlog).1

end AuthGateway

end DashboardClient
