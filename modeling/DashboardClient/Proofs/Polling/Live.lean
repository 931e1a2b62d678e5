import DashboardClient.Polling.World
import DashboardClient.Proofs.Polling.Revocation

/-!
# The live part of a subscription

What an owner or an observer can see of a subscription depends on its current task only. The
live part leaves the tasks of all activations that are over out. Steps of these tasks do not
change it, and what any other step does to it and reports can be told from it alone.
-/

namespace DashboardClient

variable {α : Type}

/-- An outcome came too late to be applied. -/
def PollEvent.isDiscarded : PollEvent α → Bool
  | .discarded _ _ => true
  | _ => false

/-- The step that a task takes when it is polled at `now`. A retrieval settles as its source
says; a task that is not inside one has a step if it has something to do. -/
def PollTask.step? (t : PollTask) (source : Source α) (now : Nat) : Option (PollAction α) :=
  match t.phase with
  | .retrieving number since _ =>
    if ((source number).latency.map (since + ·)).any (· ≤ now) then
      some (.settle number (source number).outcome)
    else none
  | _ => if t.isReady now then some (.turn t.generation) else none

/-- A task takes a turn where it chooses, and settles the retrieval that it is inside of. -/
theorem PollTask.step?_cases {t : PollTask} {source : Source α} {now : Nat} {a : PollAction α}
    (step : t.step? source now = some a) :
    (∃ due, t.due? now = some due ∧ a = .turn t.generation) ∨
      ∃ n since due, t.phase = .retrieving n since due ∧ a = .settle n (source n).outcome := by
  unfold PollTask.step? at step
  cases hp : t.phase with
  | spawned =>
    simp only [hp, Option.ite_none_right_eq_some, Option.some.injEq] at step
    exact Or.inl ⟨now, by simp [PollTask.due?, hp], step.2.symm⟩
  | waiting due =>
    simp only [hp, Option.ite_none_right_eq_some, Option.some.injEq] at step
    exact Or.inl ⟨due, by simp [PollTask.due?, hp], step.2.symm⟩
  | retrieving n since due =>
    simp only [hp, Option.ite_none_right_eq_some, Option.some.injEq] at step
    exact Or.inr ⟨n, since, due, rfl, step.2.symm⟩

namespace Subscription

variable {s s' : Subscription α} {history : List (Nat × PollEvent α)} {source : Source α}
  {now n g : Nat} {t : PollTask} {t' : Option PollTask} {a : PollAction α}

/-- The task of the current activation. -/
def current? (s : Subscription α) : Option PollTask :=
  s.activation.bind s.task?

/-- The subscription without the tasks of activations that are over. -/
def live (s : Subscription α) : Subscription α :=
  { s with tasks := s.current?.toList }

theorem current?_eq_some (h : s.current? = some t) :
    s.activation = some t.generation ∧ s.task? t.generation = some t := by
  obtain ⟨g, active, found⟩ := Option.bind_eq_some_iff.1 h
  have hg : t.generation = g := key_of_find? found
  exact ⟨hg ▸ active, hg ▸ found⟩

theorem mem_of_current? (h : s.current? = some t) : t ∈ s.tasks :=
  mem_of_task? (current?_eq_some h).2

theorem IsOrderly.generation_current (ho : s.IsOrderly) (h : s.current? = some t) :
    s.generation = t.generation :=
  (ho.newest _ (current?_eq_some h).1).symm

@[simp] theorem current?_live (s : Subscription α) : s.live.current? = s.current? := by
  cases ha : s.activation with
  | none => simp [live, current?, ha]
  | some g =>
    have hlive : s.live.task? g = (s.task? g).toList.find? (·.generation == g) := by
      simp [live, current?, ha, task?]
    show s.activation.bind s.live.task? = s.activation.bind s.task?
    rw [ha, Option.bind_some, Option.bind_some, hlive]
    cases hf : s.task? g with
    | none => rfl
    | some t =>
      have hg : t.generation = g := key_of_find? hf
      simp [hg]

theorem current?_congr (h : s.live = s'.live) : s.current? = s'.current? := by
  rw [← current?_live, h, current?_live]

-- ---------------------------------------------------------------------------
-- Steps of the owner
-- ---------------------------------------------------------------------------

/-- Two steps report the same and lead to the same live part. -/
def Alike (r r' : Subscription α × List (PollEvent α)) : Prop :=
  r.1.live = r'.1.live ∧ r.2 = r'.2

theorem Alike.ite {p p' : Prop} [Decidable p] [Decidable p'] (hp : p ↔ p')
    {r r' q q' : Subscription α × List (PollEvent α)} (hr : Alike r r') (hq : Alike q q') :
    Alike (if p then r else q) (if p' then r' else q') := by
  simp only [← hp]
  split
  · exact hr
  · exact hq

theorem current?_activate (ho : s.IsOrderly) :
    s.activate.1.current? = some { generation := s.generation + 1 } := by
  have hnone : s.task? (s.generation + 1) = none := by
    refine List.find?_eq_none.2 fun t ht => ?_
    have := ho.bounded t ht
    simp only [beq_iff_eq]
    omega
  simp only [current?, activation_activate, Option.bind_some]
  rw [task?, tasks_activate, List.find?_append]
  simp only [task?] at hnone
  simp [hnone]

theorem alike_activate (ho : s.IsOrderly) (ho' : s'.IsOrderly) (h : s.live = s'.live) :
    Alike s.activate s'.activate := by
  have hfresh {r : Subscription α} (hr : r.IsOrderly) : r.activate.1.live =
      { r.live.activate.1 with tasks := [{ generation := r.live.generation + 1 }] } := by
    rw [live, current?_activate hr]
    rfl
  have hevents (r : Subscription α) : r.activate.2 = r.live.activate.2 := rfl
  exact ⟨by rw [hfresh ho, hfresh ho', h], by rw [hevents s, hevents s', h]⟩

theorem alike_deactivate (h : s.live = s'.live) : Alike s.deactivate s'.deactivate := by
  have hactivation : s'.activation = s.activation :=
    show s'.live.activation = s.live.activation by rw [h]
  cases ha : s.activation with
  | none =>
    rw [ha] at hactivation
    simpa [Alike, Subscription.deactivate, ha, hactivation] using h
  | some g =>
    rw [ha] at hactivation
    have hover {r : Subscription α} (hr : r.activation = some g) : r.deactivate.1.live =
        { r.live with
          watched := r.live.watched.modify .deactivate, activation := none, tasks := [] } := by
      simp [Subscription.deactivate, hr, live, current?]
    refine ⟨by rw [hover ha, hover hactivation, h], ?_⟩
    simp [Subscription.deactivate, ha, hactivation]

theorem current?_refresh (active : s.activation = some g) :
    s.refresh.current? = s.current?.map (·.request) := by
  have hactivation : s.refresh.activation = some g := by simp [Subscription.refresh, active]
  have hkey : ((·.generation == g) ∘ fun t : PollTask =>
      if t.generation = g then t.request else t) = (·.generation == g) := by
    funext t
    simp only [Function.comp]
    split <;> simp
  simp only [current?, hactivation, active, Option.bind_some]
  rw [task?, tasks_refresh active, List.find?_map, hkey, ← task?]
  cases hf : s.task? g with
  | none => rfl
  | some t =>
    have hg : t.generation = g := key_of_find? hf
    simp [hg]

theorem live_refresh (s : Subscription α) :
    s.refresh.live = { s.live with tasks := (s.live.current?.map (·.request)).toList } := by
  rw [current?_live]
  cases ha : s.activation with
  | none => simp [Subscription.refresh, ha, live, current?]
  | some g =>
    rw [live, current?_refresh ha]
    simp [Subscription.refresh, ha, live]

theorem alike_setEnabled (ho : s.IsOrderly) (ho' : s'.IsOrderly) (h : s.live = s'.live)
    (enabled : Bool) : Alike (s.setEnabled enabled) (s'.setEnabled enabled) := by
  have hset : ({ s with enabled } : Subscription α).live =
      ({ s' with enabled } : Subscription α).live :=
    congrArg (fun r : Subscription α => { r with enabled }) h
  have hsame : s.enabled = s'.enabled := show s.live.enabled = s'.live.enabled by rw [h]
  refine .ite (by rw [hsame]) ⟨h, rfl⟩ (.ite Iff.rfl ?_ (alike_deactivate hset))
  exact alike_activate (ho.congr rfl rfl rfl) (ho'.congr rfl rfl rfl) hset

theorem isOrderly_deactivate (ho : s.IsOrderly) : s.deactivate.1.IsOrderly := by
  cases ha : s.activation with
  | none => simpa [Subscription.deactivate, ha] using ho
  | some g => exact ho.deactivate ha

theorem alike_setResyncKey (ho : s.IsOrderly) (ho' : s'.IsOrderly) (h : s.live = s'.live)
    (resyncKey : Option String) : Alike (s.setResyncKey resyncKey) (s'.setResyncKey resyncKey) := by
  have hset : ({ s with resyncKey } : Subscription α).live =
      ({ s' with resyncKey } : Subscription α).live :=
    congrArg (fun r : Subscription α => { r with resyncKey }) h
  have hkey : s.resyncKey = s'.resyncKey := show s.live.resyncKey = s'.live.resyncKey by rw [h]
  have henabled : s.enabled = s'.enabled := show s.live.enabled = s'.live.enabled by rw [h]
  refine .ite (by rw [hkey]) ⟨h, rfl⟩ (.ite (by rw [henabled]) ?_ ⟨hset, rfl⟩)
  obtain ⟨hstop, hended⟩ := alike_deactivate hset
  have hover : ({ s with resyncKey } : Subscription α).deactivate.1.IsOrderly :=
    isOrderly_deactivate (ho.congr rfl rfl rfl)
  have hover' : ({ s' with resyncKey } : Subscription α).deactivate.1.IsOrderly :=
    isOrderly_deactivate (ho'.congr rfl rfl rfl)
  obtain ⟨hstart, hbegun⟩ := alike_activate hover hover' hstop
  exact ⟨hstart, congrArg₂ (· ++ ·) hended hbegun⟩

theorem alike_drop (h : s.live = s'.live) : Alike s.drop s'.drop := by
  obtain ⟨hstop, hended⟩ := alike_deactivate h
  exact ⟨congrArg (fun r : Subscription α => { r with dropped := true }) hstop, hended⟩

/-- Tasks of activations that are over make no difference to the owner. -/
theorem alike_act_of_owners (ho : s.IsOrderly) (ho' : s'.IsOrderly) (h : s.live = s'.live)
    (now : Nat) (owners : a.IsOwners) : Alike (s.act now a) (s'.act now a) := by
  have hdropped : s.dropped = s'.dropped := show s.live.dropped = s'.live.dropped by rw [h]
  have hafter {r r' : Subscription α × List (PollEvent α)} (hr : Alike r r') :
      Alike (if s.dropped then (s, []) else r) (if s'.dropped then (s', []) else r') :=
    .ite (by rw [hdropped]) ⟨h, rfl⟩ hr
  cases a with
  | setEnabled enabled => exact hafter (alike_setEnabled ho ho' h enabled)
  | setResyncKey key => exact hafter (alike_setResyncKey ho ho' h key)
  | refresh => exact hafter ⟨by rw [live_refresh, live_refresh, h], rfl⟩
  | drop => exact hafter (alike_drop h)
  | turn => exact absurd owners id
  | settle => exact absurd owners id


-- ---------------------------------------------------------------------------
-- Steps of the current task
-- ---------------------------------------------------------------------------

theorem generation_of_mem_proceed {due : Nat} {u : PollTask}
    (h : u ∈ (s.proceed t now due).1) : u.generation = t.generation := by
  unfold proceed at h
  split at h
  · cases h
  · obtain rfl := Option.some.inj h
    rfl
  · split at h
    · obtain rfl := Option.some.inj h
      rfl
    · cases h

/-- The current task changes, and the retrievals are counted anew. -/
theorem live_put (ho : s.IsOrderly) (current : s.current? = some t)
    (keeps : ∀ x ∈ t', x.generation = t.generation) (started : Nat) :
    ({ s.put t.generation t' with started } : Subscription α).live =
      { s.live with tasks := t'.toList, started } := by
  obtain ⟨active, found⟩ := current?_eq_some current
  have hcurrent : ({ s.put t.generation t' with started } : Subscription α).current? = t' := by
    show s.activation.bind (s.put t.generation t').task? = t'
    rw [active, Option.bind_some]
    exact find?_replaceFirst_self ho.distinct found keeps
  rw [live, hcurrent]
  rfl

/-- The current task goes on with what it chooses. -/
theorem alike_proceed (ho : s.IsOrderly) (ho' : s'.IsOrderly) (h : s.live = s'.live)
    (current : s.current? = some t) {u : PollTask} (hg : u.generation = t.generation)
    (now due : Nat) :
    Alike
      ({ s.put t.generation (s.proceed u now due).1 with started := (s.proceed u now due).2.1 },
        (s.proceed u now due).2.2)
      ({ s'.put t.generation (s'.proceed u now due).1 with
          started := (s'.proceed u now due).2.1 },
        (s'.proceed u now due).2.2) := by
  have hproceed : s.proceed u now due = s'.proceed u now due :=
    show s.live.proceed u now due = s'.live.proceed u now due by rw [h]
  have hkeeps : ∀ x ∈ (s'.proceed u now due).1, x.generation = t.generation :=
    fun x hx => (generation_of_mem_proceed hx).trans hg
  have current' : s'.current? = some t := (current?_congr h).symm.trans current
  rw [hproceed]
  exact ⟨by rw [live_put ho current hkeeps, live_put ho' current' hkeeps, h], rfl⟩

theorem turn_of_due? {due : Nat} (found : s.task? t.generation = some t)
    (chooses : t.due? now = some due) :
    s.turn now t.generation =
      ({ s.put t.generation (s.proceed t now due).1 with started := (s.proceed t now due).2.1 },
        (s.proceed t now due).2.2) := by
  unfold turn
  simp only [found]
  cases hp : t.phase with
  | spawned =>
    obtain rfl : now = due := by simpa [PollTask.due?, hp] using chooses
    rfl
  | waiting tick =>
    obtain rfl : tick = due := by simpa [PollTask.due?, hp] using chooses
    rfl
  | retrieving => simp [PollTask.due?, hp] at chooses

theorem alike_turn (ho : s.IsOrderly) (ho' : s'.IsOrderly) (h : s.live = s'.live)
    (current : s.current? = some t) {due : Nat} (chooses : t.due? now = some due) :
    Alike (s.turn now t.generation) (s'.turn now t.generation) := by
  have found := (current?_eq_some current).2
  have found' := (current?_eq_some ((current?_congr h).symm.trans current)).2
  rw [turn_of_due? found chooses, turn_of_due? found' chooses]
  exact alike_proceed ho ho' h current rfl now due

theorem alike_settle {history' : List (Nat × PollEvent α)} (ho : s.IsOrderly)
    (ho' : s'.IsOrderly) (hr : s.IsRecorded history) (hr' : s'.IsRecorded history')
    (h : s.live = s'.live) (current : s.current? = some t) {since due : Nat}
    (busy : t.phase = .retrieving n since due) (now : Nat) (outcome : Except RetrievalError α) :
    Alike (s.settle now n outcome) (s'.settle now n outcome) := by
  have current' : s'.current? = some t := (current?_congr h).symm.trans current
  have happlied : (s.applyOutcome t now outcome).live = (s'.applyOutcome t now outcome).live :=
    show s.live.applyOutcome t now outcome = s'.live.applyOutcome t now outcome by rw [h]
  have hevent : s.outcomeEvent n t.generation outcome = s'.outcomeEvent n t.generation outcome :=
    show s.live.outcomeEvent n t.generation outcome = s'.live.outcomeEvent n t.generation outcome by
      rw [h]
  have horderly {r : Subscription α} (hr : r.IsOrderly) :
      (r.applyOutcome t now outcome).IsOrderly :=
    hr.congr rfl rfl (applyOutcome_generation r t now outcome)
  have hcurrent : (s.applyOutcome t now outcome).current? = some t := current
  obtain ⟨hlive, hevents⟩ := alike_proceed (u := t.afterFirst) (horderly ho) (horderly ho')
    happlied hcurrent rfl now due
  rw [settle_of_current hr ho (mem_of_current? current) busy (ho.generation_current current),
    settle_of_current hr' ho' (mem_of_current? current') busy (ho'.generation_current current')]
  exact ⟨hlive, congrArg₂ List.cons hevent hevents⟩

/-- Tasks of activations that are over make no difference to the current one. -/
theorem alike_poll {history' : List (Nat × PollEvent α)} (ho : s.IsOrderly)
    (ho' : s'.IsOrderly) (hr : s.IsRecorded history) (hr' : s'.IsRecorded history')
    (h : s.live = s'.live) (current : s.current? = some t)
    (step : t.step? source now = some a) : Alike (s.act now a) (s'.act now a) := by
  rcases PollTask.step?_cases step with ⟨due, chooses, rfl⟩ | ⟨n, since, due, busy, rfl⟩
  · exact alike_turn ho ho' h current chooses
  · exact alike_settle ho ho' hr hr' h current busy now _


-- ---------------------------------------------------------------------------
-- Steps of tasks whose activation is over
-- ---------------------------------------------------------------------------

/-- A task of an activation that is over changes or ends. -/
theorem live_put_of_over (ended : s.activation ≠ some g)
    (keeps : ∀ x ∈ t', x.generation = g) : (s.put g t').live = s.live := by
  have hcurrent : (s.put g t').current? = s.current? := by
    show s.activation.bind (s.put g t').task? = s.activation.bind s.task?
    cases ha : s.activation with
    | none => rfl
    | some g' =>
      have hne : g' ≠ g := fun he => ended (ha.trans (congrArg some he))
      exact find?_replaceFirst_ne keeps hne
  rw [live, hcurrent]
  rfl

/-- A task that was told to stop ends as soon as it chooses. -/
theorem turn_of_stopped {due : Nat} (found : s.task? t.generation = some t)
    (chooses : t.due? now = some due) (stopped : t.stopRequested = true) :
    s.turn now t.generation = (s.put t.generation none, []) := by
  have hleave : s.proceed t now due = (none, s.started, []) := by
    simp [proceed, PollTask.choose, stopped]
  rw [turn_of_due? found chooses, hleave]
  rfl

/-- The step of a task whose activation is over ends the task, and at most reports that an
outcome is discarded. -/
theorem live_act_of_over (ho : s.IsOrderly) (hr : s.IsRecorded history) (ht : t ∈ s.tasks)
    (ended : s.activation ≠ some t.generation) (step : t.step? source now = some a) :
    (s.act now a).1.live = s.live ∧ ∀ e ∈ (s.act now a).2, e.isDiscarded = true := by
  have found : s.task? t.generation = some t := (find?_eq_some_iff_mem ho.distinct).2 ht
  have stopped : t.stopRequested = true := (ho.stopped t ht).2 ended
  have hgone : (s.put t.generation none).live = s.live := live_put_of_over ended (by simp)
  rcases PollTask.step?_cases step with ⟨due, chooses, rfl⟩ | ⟨n, since, due, busy, rfl⟩
  · simp only [act]
    rw [turn_of_stopped found chooses stopped]
    exact ⟨hgone, by simp⟩
  · have stale : s.generation ≠ t.generation := fun hg => ended (ho.current t ht hg.symm)
    simp only [act]
    rw [settle_of_stale hr ho ht busy stale]
    exact ⟨hgone, by simp [PollEvent.isDiscarded]⟩

end Subscription

end DashboardClient
