import DashboardClient.Proofs.Polling.Revocation

/-!
# No leaked and no missing timer

Tasks are never aborted; they are told to stop and end where they next choose what to do. Once
every task has run as far as it can, a timer is left exactly where there is an activation, and
it is only one. All other tasks are inside retrievals that were revoked, and end with them.
-/

namespace DashboardClient

variable {α : Type}

/-- A task with nothing to do waits for a tick that is not yet due, or is inside a retrieval. -/
theorem PollTask.phase_of_not_ready {t : PollTask} {now : Nat} (h : t.isReady now = false) :
    (∃ due, t.phase = .waiting due ∧ now < due ∧ t.stopRequested = false) ∨
      ∃ n since due, t.phase = .retrieving n since due := by
  unfold isReady at h
  cases hp : t.phase with
  | spawned => simp [hp] at h
  | waiting due =>
    simp only [hp, Bool.or_eq_false_iff, decide_eq_false_iff_not, Nat.not_le] at h
    exact Or.inl ⟨due, rfl, h.1.2, h.1.1⟩
  | retrieving n since due => exact Or.inr ⟨n, since, due, rfl⟩

namespace Subscription

/-- Every task has run as far as it can at `now`. -/
def IsIdle (s : Subscription α) (now : Nat) : Prop :=
  ∀ t ∈ s.tasks, t.isReady now = false

instance (s : Subscription α) (now : Nat) : Decidable (s.IsIdle now) :=
  inferInstanceAs (Decidable (∀ t ∈ s.tasks, t.isReady now = false))

/-- The tasks that have a timer, or will go back to it when their retrieval settles. -/
def timers (s : Subscription α) : List PollTask :=
  s.tasks.filter fun t => t.isTiming || !t.stopRequested

variable {s : Subscription α} {history : List (Nat × PollEvent α)} {now n g : Nat}

theorem IsOrderly.generation_ne (h : s.IsOrderly) {t : PollTask} (ht : t ∈ s.tasks)
    (ended : s.activation ≠ some t.generation) : s.generation ≠ t.generation :=
  fun hg => ended (h.current t ht hg.symm)

/-- The task of an activation that is over is inside a retrieval. -/
theorem IsIdle.retrieving_of_over (idle : s.IsIdle now) (ho : s.IsOrderly) {t : PollTask}
    (ht : t ∈ s.tasks) (ended : s.activation ≠ some t.generation) :
    ∃ n since due, t.phase = .retrieving n since due := by
  rcases PollTask.phase_of_not_ready (idle t ht) with ⟨_, _, _, hgoes⟩ | hbusy
  · rw [(ho.stopped t ht).2 ended] at hgoes
    cases hgoes
  · exact hbusy

theorem IsOrderly.filter_current (h : s.IsOrderly) (active : s.activation = some g) :
    ∃ t ∈ s.tasks, t.generation = g ∧ s.tasks.filter (·.generation == g) = [t] := by
  obtain ⟨t, ht, rfl⟩ := h.attended g active
  exact ⟨t, ht, rfl, filter_key_eq h.distinct ht⟩

/-- Where nothing is left to do, the current task has the only timer. -/
theorem IsIdle.timers_eq (idle : s.IsIdle now) (ho : s.IsOrderly) :
    s.timers = s.tasks.filter fun t => s.activation == some t.generation := by
  refine List.filter_congr fun t ht => ?_
  by_cases hover : s.activation = some t.generation
  · have hgoes : t.stopRequested = false := by
      simpa [hover] using ho.stopped t ht
    simp [hover, hgoes]
  · have hstop := (ho.stopped t ht).2 hover
    obtain ⟨n, since, due, hbusy⟩ := idle.retrieving_of_over ho ht hover
    simp [hover, hstop, PollTask.isTiming, PollTask.retrieval?, hbusy]

theorem IsIdle.length_timers (idle : s.IsIdle now) (ho : s.IsOrderly) (hb : s.IsBookkept) :
    s.timers.length = if s.enabled && !s.dropped then 1 else 0 := by
  rw [idle.timers_eq ho, ← hb]
  cases ha : s.activation with
  | none => simp [isActive, ha]
  | some g =>
    obtain ⟨t, _, _, hfilter⟩ := ho.filter_current ha
    have hsame : (s.tasks.filter fun t => some g == some t.generation) = [t] := by
      rw [← hfilter]
      refine List.filter_congr fun u _ => ?_
      simp [eq_comm]
    rw [hsame]
    simp [isActive, ha]

/-- Only its owner enables, disables or drops a subscription. -/
theorem settings_of_tasks (s : Subscription α) (now : Nat) {a : PollAction α}
    (h : ¬a.IsOwners) :
    (s.act now a).1.enabled = s.enabled ∧ (s.act now a).1.dropped = s.dropped := by
  cases a with
  | turn generation =>
    simp only [act, turn]
    split
    · exact ⟨rfl, rfl⟩
    · split <;> exact ⟨rfl, rfl⟩
  | settle number outcome =>
    simp only [act, settle]
    split
    · exact ⟨rfl, rfl⟩
    · split
      · split <;> exact ⟨rfl, rfl⟩
      · exact ⟨rfl, rfl⟩
  | _ => exact absurd trivial h

theorem settings_of_key (s : Subscription α) (now : Nat) (key : Option String) :
    (s.act now (.setResyncKey key)).1.enabled = s.enabled ∧
      (s.act now (.setResyncKey key)).1.dropped = s.dropped := by
  simp only [act, setResyncKey]
  split
  · exact ⟨rfl, rfl⟩
  · split
    · exact ⟨rfl, rfl⟩
    · split
      · exact deactivate_settings { s with resyncKey := key }
      · exact ⟨rfl, rfl⟩

/-- While its owner only changes the key, a subscription stays enabled. -/
theorem settings_of_keys (options : PollOptions) (born : Nat)
    (before : List (Nat × PollAction α)) {later : List (Nat × PollAction α)}
    (keys : ∀ step ∈ later, step.2.IsOwners → ∃ key, step.2 = .setResyncKey key) :
    (life options born (before ++ later)).1.enabled = (life options born before).1.enabled ∧
      (life options born (before ++ later)).1.dropped = (life options born before).1.dropped := by
  induction later using List.reverseRecOn with
  | nil => simp
  | append_singleton later step ih =>
    obtain ⟨now, a⟩ := step
    obtain ⟨hkeys, hlast⟩ := List.forall_mem_append.1 keys
    obtain ⟨henabled, hdropped⟩ := ih hkeys
    rw [← List.append_assoc, life_snoc]
    have hstep : ((life options born (before ++ later)).1.act now a).1.enabled =
        (life options born (before ++ later)).1.enabled ∧
        ((life options born (before ++ later)).1.act now a).1.dropped =
          (life options born (before ++ later)).1.dropped := by
      by_cases howners : a.IsOwners
      · obtain ⟨key, rfl⟩ := hlast _ List.mem_cons_self howners
        exact settings_of_key _ now key
      · exact settings_of_tasks _ now howners
    exact ⟨hstep.1.trans henabled, hstep.2.trans hdropped⟩

/-- Once its owner has let go, the tasks that are left are those of revoked retrievals. -/
theorem IsIdle.closed_iff (idle : s.IsIdle now) (ho : s.IsOrderly) (hb : s.IsBookkept)
    (hr : s.IsRecorded history) (dropped : s.dropped = true) :
    s.isOpen = false ↔ ∀ n g, ¬InFlight history n g := by
  have hover (t : PollTask) : s.activation ≠ some t.generation := by
    intro ha
    simp [IsBookkept, isActive, ha, dropped] at hb
  simp only [isOpen, dropped, Bool.not_true, Bool.false_or, Bool.not_eq_false',
    List.isEmpty_iff]
  constructor
  · intro hnone n g hflight
    obtain ⟨t, ht, _⟩ := (hr.inFlight n g).1 hflight
    simp [hnone] at ht
  · intro hflight
    refine List.eq_nil_iff_forall_not_mem.2 fun t ht => ?_
    obtain ⟨n, since, due, hbusy⟩ := idle.retrieving_of_over ho ht (hover t)
    have hr' : t.retrieval? = some n := PollTask.retrieval?_eq_some_iff.2 ⟨_, _, hbusy⟩
    exact hflight n t.generation ((hr.inFlight n t.generation).2 ⟨t, ht, hr', rfl⟩)

/-- Once every task has run as far as it can: an active subscription has one task of its current
activation, which waits for a tick or is inside its retrieval; every other task is inside a
retrieval that was revoked, and ends without another one when that settles. So there is one
timer if the subscription is enabled and its owner still has it, however often the key changed,
and none otherwise; and after the owner has let go, the snapshot can change no more
exactly when no retrieval is in flight. -/
theorem no_leaked_or_missing_timer (options : PollOptions) (born : Nat)
    (actions : List (Nat × PollAction α)) (now : Nat)
    (idle : (life options born actions).1.IsIdle now) :
    let s := (life options born actions).1
    let history := (life options born actions).2
    (∀ g, s.activation = some g → g = s.generation ∧
      ∃ t, s.tasks.filter (·.generation == g) = [t] ∧
        ((∃ due, t.phase = .waiting due ∧ now < due) ∨
          ∃ n since due, t.phase = .retrieving n since due)) ∧
    (∀ t ∈ s.tasks, s.activation ≠ some t.generation →
      ∃ n since due, t.phase = .retrieving n since due ∧ Revoked history n t.generation ∧
        ∀ later outcome,
          (s.act later (.settle n outcome)).2 = [.discarded n t.generation] ∧
          ∀ u, u ∈ (s.act later (.settle n outcome)).1.tasks ↔ u ∈ s.tasks ∧ u ≠ t) ∧
    s.timers.length = (if s.enabled && !s.dropped then 1 else 0) ∧
    (∀ before later, actions = before ++ later →
      (∀ step ∈ later, step.2.IsOwners → ∃ key, step.2 = .setResyncKey key) →
      (life options born before).1.enabled → ¬(life options born before).1.dropped →
      s.timers.length = 1) ∧
    (s.dropped → (s.isOpen = false ↔ ∀ n g, ¬InFlight history n g)) := by
  intro s history
  have ho : s.IsOrderly := isOrderly_life options born actions
  have hr : s.IsRecorded history := isRecorded_life options born actions
  have hb : s.IsBookkept := isBookkept_life options born actions
  have hcount := IsIdle.length_timers idle ho hb
  refine ⟨?_, ?_, hcount, ?_, IsIdle.closed_iff idle ho hb hr⟩
  · intro g active
    refine ⟨ho.newest g active, ?_⟩
    obtain ⟨t, ht, _, hfilter⟩ := ho.filter_current active
    refine ⟨t, hfilter, ?_⟩
    rcases PollTask.phase_of_not_ready (idle t ht) with ⟨due, hp, hdue, _⟩ | hbusy
    · exact Or.inl ⟨due, hp, hdue⟩
    · exact Or.inr hbusy
  · intro t ht ended
    obtain ⟨n, since, due, hbusy⟩ := IsIdle.retrieving_of_over idle ho ht ended
    have hn : t.retrieval? = some n := PollTask.retrieval?_eq_some_iff.2 ⟨_, _, hbusy⟩
    have hrevoked := (isAccounted_life options born actions).revoked t ht n hn ended
    refine ⟨n, since, due, hbusy, hrevoked, ?_⟩
    intro later outcome
    have hsettle : s.act later (.settle n outcome) =
        (s.put t.generation none, [.discarded n t.generation]) :=
      settle_of_stale hr ho ht hbusy (ho.generation_ne ht ended) outcome
    rw [hsettle]
    refine ⟨rfl, fun u => ?_⟩
    have found : s.task? t.generation = some t := (find?_eq_some_iff_mem ho.distinct).2 ht
    rw [ho.mem_put found (by simp)]
    simp only [Option.mem_def, reduceCtorEq, false_or, and_congr_right_iff]
    intro hu
    exact not_congr ⟨ho.eq_of_generation_eq ht hu, fun he => he ▸ rfl⟩
  · rintro before later rfl keys enabled kept
    obtain ⟨henabled, hdropped⟩ := settings_of_keys options born before keys
    rw [hcount, henabled, hdropped]
    simp [enabled, kept]

/-- The key changes twice while a retrieval is in flight, and the owner lets go before that
retrieval settles. -/
theorem one_timer_after_two_keys :
    let ms := millisecond
    let options : PollOptions := { interval := ⟨10 * ms, by decide⟩ }
    let before : List (Nat × PollAction Nat) := [(0, .turn 1)]
    let later : List (Nat × PollAction Nat) :=
      [(ms, .setResyncKey (some "b")), (ms, .setResyncKey (some "c")), (ms, .turn 3), (ms, .turn 5),
       (2 * ms, .settle 2 (.ok 8))]
    let ending : List (Nat × PollAction Nat) :=
      [(3 * ms, .drop), (3 * ms, .turn 5), (5 * ms, .settle 1 (.ok 7))]
    let history := (life options 0 (before ++ later)).2
    let whole := (life options 0 (before ++ later ++ ending)).2
    (life options 0 (before ++ later)).1.timers.length = 1 ∧
      (∃ n, Revoked history n 1) ∧ ∀ n g, ¬InFlight whole n g := by
  intro ms options before later ending history whole
  obtain ⟨_, hothers, _, hkeys, _⟩ :=
    no_leaked_or_missing_timer options 0 (before ++ later) (2 * ms) (by decide +kernel)
  obtain ⟨_, _, _, _, hclosed⟩ :=
    no_leaked_or_missing_timer options 0 (before ++ later ++ ending) (5 * ms) (by decide +kernel)
  refine ⟨?_, ?_, ?_⟩
  · refine hkeys before later rfl ?_ (by decide +kernel) (by decide +kernel)
    simp [later, PollAction.IsOwners]
  · let revoked : PollTask :=
      { generation := 1, phase := .retrieving 1 0 (10 * ms), stopRequested := true }
    have hmem : revoked ∈ (life options 0 (before ++ later)).1.tasks := by decide +kernel
    obtain ⟨n, _, _, _, hrevoked, _⟩ := hothers revoked hmem (by decide +kernel)
    exact ⟨n, hrevoked⟩
  · exact (hclosed (by decide +kernel)).1 (by decide +kernel)

end Subscription

end DashboardClient
