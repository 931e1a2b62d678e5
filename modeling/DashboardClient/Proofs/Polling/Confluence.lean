import DashboardClient.Proofs.Polling.Prompt

/-!
# The order of steps at one instant

While the clock stands, tasks that have a step to take may take it in any order. Of two
tasks of one subscription at least one belongs to an activation that is over. All it can
do is end, which the other one does not notice. So steps of different tasks commute, and
wherever a subscription comes to rest it has come to where the scheduler takes it. Only
the places of discards in its history depend on the order.
-/

namespace DashboardClient

variable {α : Type}

-- ---------------------------------------------------------------------------
-- Steps of two tasks
-- ---------------------------------------------------------------------------

/-- What a task reports when it ends because its activation is over. -/
def PollTask.farewell (t : PollTask) : List (PollEvent α) :=
  t.retrieval?.toList.map (.discarded · t.generation)

namespace Subscription

variable {s : Subscription α} {source : Source α} {now g : Nat} {t u : PollTask}
  {a b : PollAction α}

/-- Owners and tasks have led the subscription to where it stands. -/
def IsLived (s : Subscription α) : Prop :=
  ∃ options born actions, s = (life options born actions).1

theorem isLived_new (options : PollOptions) :
    (new options : Subscription α × List (PollEvent α)).1.IsLived :=
  ⟨options, 0, [], rfl⟩

namespace IsLived

theorem act (h : s.IsLived) (now : Nat) (a : PollAction α) : (s.act now a).1.IsLived := by
  obtain ⟨options, born, actions, rfl⟩ := h
  exact ⟨options, born, actions ++ [(now, a)], by rw [life_snoc]⟩

theorem isOrderly (h : s.IsLived) : s.IsOrderly := by
  obtain ⟨options, born, actions, rfl⟩ := h
  exact isOrderly_life options born actions

theorem isRecorded (h : s.IsLived) : ∃ history, s.IsRecorded history := by
  obtain ⟨options, born, actions, rfl⟩ := h
  exact ⟨_, isRecorded_life options born actions⟩

end IsLived

/-- The step of a task changes this task, the snapshot within its generation and the count of
retrievals. -/
theorem act_of_step (hs : s.IsLived) (ht : t ∈ s.tasks) (step : t.step? source now = some a) :
    ∃ (t' : Option PollTask) (watched : Watched (Snapshot α)) (started : Nat),
      (s.act now a).1 = { s.put t.generation t' with watched, started } ∧
      ∀ x ∈ t', x.generation = t.generation := by
  have ho := hs.isOrderly
  obtain ⟨history, hr⟩ := hs.isRecorded
  have found : s.task? t.generation = some t := (find?_eq_some_iff_mem ho.distinct).2 ht
  rcases PollTask.step?_cases step with ⟨due, chooses, rfl⟩ | ⟨n, since, due, busy, rfl⟩
  · refine ⟨(s.proceed t now due).1, s.watched, (s.proceed t now due).2.1, ?_, ?_⟩
    · simp only [act, turn_of_due? found chooses]
      rfl
    · exact fun x hx => generation_of_mem_proceed hx
  · by_cases current : s.generation = t.generation
    · let applied := s.applyOutcome t now (source n).outcome
      refine ⟨(applied.proceed t.afterFirst now due).1, applied.watched,
        (applied.proceed t.afterFirst now due).2.1, ?_, ?_⟩
      · simp only [act, settle_of_current hr ho ht busy current]
        rfl
      · intro x hx
        have hkept : x.generation = t.afterFirst.generation := generation_of_mem_proceed hx
        exact hkept
    · refine ⟨none, s.watched, s.started, ?_, by simp⟩
      simp only [act, settle_of_stale hr ho ht busy current]
      rfl

/-- The step of a task leaves other tasks and the activation as they are. -/
theorem other_act_of_step (hs : s.IsLived) (ht : t ∈ s.tasks) (hu : u ∈ s.tasks)
    (hne : u.generation ≠ t.generation) (step : t.step? source now = some a) :
    u ∈ (s.act now a).1.tasks ∧ (s.act now a).1.activation = s.activation := by
  have ho := hs.isOrderly
  obtain ⟨t', watched, started, hafter, keeps⟩ := act_of_step hs ht step
  rw [hafter]
  refine ⟨?_, rfl⟩
  exact (ho.mem_put ((find?_eq_some_iff_mem ho.distinct).2 ht) keeps).2 (Or.inr ⟨hu, hne⟩)

/-- The step of a task whose activation is over ends it. -/
theorem act_of_over (hs : s.IsLived) (ht : t ∈ s.tasks)
    (ended : s.activation ≠ some t.generation) (step : t.step? source now = some a) :
    s.act now a = (s.put t.generation none, t.farewell) := by
  have ho := hs.isOrderly
  obtain ⟨history, hr⟩ := hs.isRecorded
  rcases PollTask.step?_cases step with ⟨due, chooses, rfl⟩ | ⟨n, since, due, busy, rfl⟩
  · have found : s.task? t.generation = some t := (find?_eq_some_iff_mem ho.distinct).2 ht
    have hidle : t.retrieval? = none := retrieval?_of_due? chooses
    simp only [act, turn_of_stopped found chooses ((ho.stopped t ht).2 ended), PollTask.farewell,
      hidle]
    rfl
  · have stale : s.generation ≠ t.generation := fun hg => ended (ho.current t ht hg.symm)
    have hbusy : t.retrieval? = some n := PollTask.retrieval?_eq_some_iff.2 ⟨since, due, busy⟩
    simp only [act, settle_of_stale hr ho ht busy stale, PollTask.farewell, hbusy]
    rfl

/-- Another task does not notice that a task is gone. -/
theorem act_put_none (hs : s.IsLived) (hs' : (s.put g none).IsLived) (hu : u ∈ s.tasks)
    (hne : u.generation ≠ g) (step : u.step? source now = some b) :
    (s.put g none).act now b = ((s.act now b).1.put g none, (s.act now b).2) := by
  have ho := hs.isOrderly
  have ho' := hs'.isOrderly
  obtain ⟨history, hr⟩ := hs.isRecorded
  obtain ⟨history', hr'⟩ := hs'.isRecorded
  have found : s.task? u.generation = some u := (find?_eq_some_iff_mem ho.distinct).2 hu
  have found' : (s.put g none).task? u.generation = some u :=
    (find?_replaceFirst_ne (by simp) hne).trans found
  have hu' : u ∈ (s.put g none).tasks := mem_of_task? found'
  have hcomm (r : Subscription α) (u' : Option PollTask)
      (keeps : ∀ x ∈ u', x.generation = u.generation) (started : Nat) :
      ({ (r.put g none).put u.generation u' with started } : Subscription α) =
        ({ r.put u.generation u' with started } : Subscription α).put g none := by
    have gone : ∀ x ∈ (none : Option PollTask), x.generation = g := by simp
    simp only [put, replaceFirst_comm hne keeps gone]
  rcases PollTask.step?_cases step with ⟨due, chooses, rfl⟩ | ⟨n, since, due, busy, rfl⟩
  · simp only [act, turn_of_due? found chooses, turn_of_due? found' chooses]
    exact Prod.ext (hcomm s _ (fun x hx => generation_of_mem_proceed hx) _) rfl
  · by_cases current : s.generation = u.generation
    · simp only [act, settle_of_current hr ho hu busy current,
        settle_of_current hr' ho' hu' busy current]
      let applied := s.applyOutcome u now (source n).outcome
      let after := applied.proceed u.afterFirst now due
      have keeps : ∀ x ∈ after.1, x.generation = u.afterFirst.generation :=
        fun x hx => generation_of_mem_proceed hx
      exact Prod.ext (hcomm applied after.1 keeps after.2.1) rfl
    · simp only [act, settle_of_stale hr ho hu busy current,
        settle_of_stale hr' ho' hu' busy current]
      exact Prod.ext (hcomm s none (by simp) s.started) rfl

/-- Steps of different tasks lead to the same place in either order and report the same. -/
theorem act_comm (hs : s.IsLived) (ht : t ∈ s.tasks) (hu : u ∈ s.tasks)
    (hne : u.generation ≠ t.generation) (ended : s.activation ≠ some t.generation)
    (stepT : t.step? source now = some a) (stepU : u.step? source now = some b) :
    (s.act now a).1.act now b = (((s.act now b).1.act now a).1, (s.act now b).2) ∧
      (s.act now a).2 = t.farewell ∧ ((s.act now b).1.act now a).2 = t.farewell := by
  have hact := act_of_over hs ht ended stepT
  have hgone : (s.put t.generation none).IsLived := by
    rw [← show (s.act now a).1 = s.put t.generation none by rw [hact]]
    exact hs.act now a
  obtain ⟨ht', hactivation⟩ := other_act_of_step hs hu ht hne.symm stepU
  have ended' : (s.act now b).1.activation ≠ some t.generation := by
    rw [hactivation]
    exact ended
  have hact' := act_of_over (hs.act now b) ht' ended' stepT
  rw [hact, hact', act_put_none hs hgone hu hne stepU]
  exact ⟨rfl, rfl, rfl⟩

end Subscription


-- ---------------------------------------------------------------------------
-- Steps of a subscription on its source
-- ---------------------------------------------------------------------------

namespace Polled

variable {p q r : Polled α} {now : Nat} {a b : PollAction α}

/-- A task has this step to take. -/
def CanTake (p : Polled α) (now : Nat) (a : PollAction α) : Prop :=
  ∃ t ∈ p.subscription.tasks, t.step? p.source now = some a

/-- The subscriptions stand alike, and the same has happened to them at the same times. Among
what happened at one time, only discards may be reported at different places. -/
structure Matches (p q : Polled α) : Prop where
  subscription : p.subscription = q.subscription
  source : p.source = q.source
  happened : p.history.Perm q.history
  seen : seenIn p.history = seenIn q.history

theorem isLived_runUntilIdle (h : p.subscription.IsLived) (now : Nat) :
    (p.runUntilIdle now).subscription.IsLived := by
  induction p using Polled.runUntilIdle.induct now with
  | case1 p rest =>
    rw [runUntilIdle_of_none rest]
    exact h
  | case2 p a next ih =>
    rw [runUntilIdle_of_some next]
    exact ih (h.act now a)

namespace Matches

theorem refl (p : Polled α) : p.Matches p :=
  ⟨rfl, rfl, .refl _, rfl⟩

theorem symm (h : p.Matches q) : q.Matches p :=
  ⟨h.subscription.symm, h.source.symm, h.happened.symm, h.seen.symm⟩

theorem trans (h : p.Matches q) (h' : q.Matches r) : p.Matches r :=
  ⟨h.subscription.trans h'.subscription, h.source.trans h'.source, h.happened.trans h'.happened,
    h.seen.trans h'.seen⟩

theorem act (h : p.Matches q) (now : Nat) (a : PollAction α) :
    (p.act now a).Matches (q.act now a) := by
  constructor
  case subscription => simp only [Polled.act, h.subscription]
  case source => exact h.source
  case happened =>
    simp only [Polled.act, h.subscription]
    exact h.happened.append_left _
  case seen => simp only [Polled.act, h.subscription, seenIn_append, h.seen]

theorem next? (h : p.Matches q) (now : Nat) : p.next? now = q.next? now := by
  obtain ⟨s, source, most, history⟩ := p
  obtain ⟨s', source', most', history'⟩ := q
  obtain rfl : s = s' := h.subscription
  obtain rfl : source = source' := h.source
  rfl

theorem wakeTimes (h : p.Matches q) (now : Nat) : p.wakeTimes now = q.wakeTimes now := by
  obtain ⟨s, source, most, history⟩ := p
  obtain ⟨s', source', most', history'⟩ := q
  obtain rfl : s = s' := h.subscription
  obtain rfl : source = source' := h.source
  rfl

theorem runUntilIdle (h : p.Matches q) (now : Nat) :
    (p.runUntilIdle now).Matches (q.runUntilIdle now) := by
  induction p using Polled.runUntilIdle.induct now generalizing q with
  | case1 p rest =>
    rw [runUntilIdle_of_none rest, runUntilIdle_of_none ((h.next? now).symm.trans rest)]
    exact h
  | case2 p a next ih =>
    rw [runUntilIdle_of_some next, runUntilIdle_of_some ((h.next? now).symm.trans next)]
    exact ih (h.act now a)

end Matches

/-- Every step of a task leaves less work. -/
theorem work_lt_of_canTake (hp : p.subscription.IsLived) (ha : p.CanTake now a) :
    (p.act now a).subscription.work now < p.subscription.work now := by
  obtain ⟨t, ht, step⟩ := ha
  have ho := hp.isOrderly
  obtain ⟨history, hr⟩ := hp.isRecorded
  cases hphase : t.phase with
  | retrieving n since due =>
    have hbusy : t.retrieval? = some n := PollTask.retrieval?_eq_some_iff.2 ⟨since, due, hphase⟩
    simp only [PollTask.step?, hphase, Option.ite_none_right_eq_some, Option.some.injEq] at step
    obtain ⟨hsettles, rfl⟩ := step
    refine work_settle_lt _ ?_
    simp only [settlesNow, hr.retrieving?_eq ho ht hbusy, settlesAt?, hphase]
    exact hsettles
  | _ =>
    have found : p.subscription.task? t.generation = some t :=
      (find?_eq_some_iff_mem ho.distinct).2 ht
    simp only [PollTask.step?, hphase, Option.ite_none_right_eq_some, Option.some.injEq] at step
    obtain ⟨hready, rfl⟩ := step
    refine work_turn_lt ?_
    simp only [runsNow, found, Option.any_some]
    exact hready

/-- A step of a task whose activation is over and a step of another task commute. -/
theorem act_act_of_over (hp : p.subscription.IsLived) {t u : PollTask}
    (ht : t ∈ p.subscription.tasks) (hu : u ∈ p.subscription.tasks)
    (hne : u.generation ≠ t.generation) (ended : p.subscription.activation ≠ some t.generation)
    (stepT : t.step? p.source now = some a) (stepU : u.step? p.source now = some b) :
    (p.act now a).CanTake now b ∧ (p.act now b).CanTake now a ∧
      ((p.act now a).act now b).Matches ((p.act now b).act now a) := by
  obtain ⟨hcomm, hbye, hbye'⟩ := Subscription.act_comm hp ht hu hne ended stepT stepU
  refine ⟨⟨u, (Subscription.other_act_of_step hp ht hu hne stepT).1, stepU⟩,
    ⟨t, (Subscription.other_act_of_step hp hu ht hne.symm stepU).1, stepT⟩, ?_⟩
  have hquiet : seenIn (t.farewell.map fun e : PollEvent α => (now, e)).reverse = [] := by
    simp [seenIn, PollTask.farewell, PollEvent.isDiscarded]
  constructor
  case subscription => simp only [act, hcomm]
  case source => rfl
  case happened =>
    simp only [act, hcomm, hbye, hbye']
    exact List.perm_append_comm_assoc _ _ _
  case seen =>
    simp only [act, hcomm, hbye, hbye', seenIn_append, hquiet, List.nil_append]

/-- Two steps of a subscription commute. -/
theorem act_act (hp : p.subscription.IsLived) (ha : p.CanTake now a) (hb : p.CanTake now b)
    (hne : a ≠ b) :
    (p.act now a).CanTake now b ∧ (p.act now b).CanTake now a ∧
      ((p.act now a).act now b).Matches ((p.act now b).act now a) := by
  obtain ⟨t, ht, stepT⟩ := ha
  obtain ⟨u, hu, stepU⟩ := hb
  have hother : u.generation ≠ t.generation := by
    intro heq
    obtain rfl := hp.isOrderly.eq_of_generation_eq ht hu heq
    exact hne (Option.some.inj (stepT.symm.trans stepU))
  by_cases active : p.subscription.activation = some t.generation
  · have ended' : p.subscription.activation ≠ some u.generation := by
      rw [active]
      exact fun heq => hother (Option.some.inj heq).symm
    obtain ⟨hta, htb, hmatch⟩ := act_act_of_over hp hu ht hother.symm ended' stepU stepT
    exact ⟨htb, hta, hmatch.symm⟩
  · exact act_act_of_over hp ht hu hother active stepT stepU

/-- Whatever step is taken first, a subscription comes to rest at the same place. -/
theorem runUntilIdle_act (hp : p.subscription.IsLived) (ha : p.CanTake now a) :
    ((p.act now a).runUntilIdle now).Matches (p.runUntilIdle now) := by
  induction hwork : p.subscription.work now using Nat.strongRecOn generalizing p a with
  | ind work ih =>
    cases hnext : p.next? now with
    | none =>
      obtain ⟨t, ht, step⟩ := ha
      obtain ⟨history, hr⟩ := hp.isRecorded
      cases (step?_of_next?_eq_none hp.isOrderly hr ht hnext).symm.trans step
    | some b =>
      have hb : p.CanTake now b := step_of_next? hnext
      rw [runUntilIdle_of_some hnext]
      by_cases hab : a = b
      · rw [hab]
        exact .refl _
      · -- Both ways go on to where the other step has been taken as well.
        obtain ⟨hafter, hafter', hmatch⟩ := act_act hp ha hb hab
        have hleft := ih _ (hwork ▸ work_lt_of_canTake hp ha) (hp.act now a) hafter rfl
        have hright := ih _ (hwork ▸ work_lt_of_canTake hp hb) (hp.act now b) hafter' rfl
        exact hleft.symm.trans ((hmatch.runUntilIdle now).trans hright)

end Polled

end DashboardClient
