import DashboardClient.Polling.Schedule
import DashboardClient.Proofs.Polling.Life
import Mathlib.Data.List.Chain
import Mathlib.Data.List.Perm.Subperm

/-!
# The grid of the ticks

Each activation has a timer. It starts a retrieval when a tick is due or on request, and each tick
falls due at an instant that the tick before it and the time at which that one was taken determine,
whatever was requested in between. So the ticks of an activation stand on a grid that begins when
its task first runs, in whatever order and at whatever times the steps of a life come.
-/

namespace DashboardClient

-- ---------------------------------------------------------------------------
-- The schedule
-- ---------------------------------------------------------------------------

/-- An interval is taken as it is asked for. -/
theorem PollOptions.nanos_of_every {nanos : Nat} {options : PollOptions}
    (h : PollOptions.every nanos = .ok options) : options.interval.nanos = nanos := by
  unfold PollOptions.every Interval.ofNanos at h
  split at h
  · obtain rfl := Except.ok.inj h
    rfl
  · cases h

theorem nextDue_of_punctual (period due : Nat) : nextDue period due due = due + period := by
  simp [nextDue]

/-- A tick that is taken after it was due is followed by a later one of the same grid. -/
theorem nextDue_eq {period now due : Nat} (hperiod : 0 < period) (hdue : due ≤ now) :
    ∃ k, 0 < k ∧ nextDue period now due = due + k * period := by
  unfold nextDue
  split
  · have hlate := Nat.div_add_mod (now - due) period
    have hrest := Nat.mod_lt (now - due) hperiod
    refine ⟨(now - due) / period + 1, Nat.succ_pos _, ?_⟩
    rw [Nat.add_mul, Nat.one_mul, Nat.mul_comm]
    omega
  · exact ⟨1, Nat.one_pos, by rw [Nat.one_mul]⟩


-- ---------------------------------------------------------------------------
-- Starts and ticks
-- ---------------------------------------------------------------------------

/-- A retrieval starts at some time, with its number, for a tick or on request. -/
structure PollStart where
  time : Nat
  number : Nat
  trigger : PollTrigger
  deriving DecidableEq, Repr

/-- A tick that was due at some time and taken at some time. -/
structure Tick where
  due : Nat
  taken : Nat
  deriving DecidableEq, Repr

/-- The tick that a retrieval starts for. -/
def PollStart.tick? (x : PollStart) : Option Tick :=
  match x.trigger with
  | .tick due => some ⟨due, x.time⟩
  | .refresh => none

/-- The ticks that were taken. -/
def ticksIn (starts : List PollStart) : List Tick :=
  starts.filterMap (·.tick?)

theorem ticksIn_append (first rest : List PollStart) :
    ticksIn (first ++ rest) = ticksIn first ++ ticksIn rest :=
  List.filterMap_append

theorem ticksIn_snoc_tick (starts : List PollStart) (time number due : Nat) :
    ticksIn (starts ++ [⟨time, number, .tick due⟩]) = ticksIn starts ++ [⟨due, time⟩] :=
  ticksIn_append _ _

theorem ticksIn_snoc_refresh (starts : List PollStart) (time number : Nat) :
    ticksIn (starts ++ [⟨time, number, .refresh⟩]) = ticksIn starts :=
  (ticksIn_append _ _).trans (List.append_nil _)

namespace Subscription

variable {α : Type}

/-- The retrievals that an activation starts. -/
def startsOf (g : Nat) (history : List (Nat × PollEvent α)) : List PollStart :=
  history.filterMap fun x =>
    match x.2 with
    | .started number g' trigger => if g' = g then some ⟨x.1, number, trigger⟩ else none
    | _ => none

/-- The times at which an activation ends. -/
def endsOf (g : Nat) (history : List (Nat × PollEvent α)) : List Nat :=
  history.filterMap fun x =>
    match x.2 with
    | .deactivated g' => if g' = g then some x.1 else none
    | _ => none

theorem mem_startsOf_iff {g : Nat} {history : List (Nat × PollEvent α)} {x : PollStart} :
    x ∈ startsOf g history ↔ (x.time, .started x.number g x.trigger) ∈ history := by
  constructor
  · intro h
    obtain ⟨⟨time, e⟩, mem, heq⟩ := List.mem_filterMap.1 h
    cases e with
    | started number g' trigger =>
      obtain ⟨rfl, rfl⟩ : g' = g ∧ ⟨time, number, trigger⟩ = x := by simpa using heq
      exact mem
    | _ => cases heq
  · intro h
    exact List.mem_filterMap.2 ⟨_, h, if_pos rfl⟩

theorem startsOf_append (g : Nat) (first rest : List (Nat × PollEvent α)) :
    startsOf g (first ++ rest) = startsOf g first ++ startsOf g rest :=
  List.filterMap_append

theorem endsOf_append (g : Nat) (first rest : List (Nat × PollEvent α)) :
    endsOf g (first ++ rest) = endsOf g first ++ endsOf g rest :=
  List.filterMap_append

end Subscription


-- ---------------------------------------------------------------------------
-- The timer of an activation
-- ---------------------------------------------------------------------------

/-- The timer of an activation: still to come, run by a task, or given up. -/
inductive Timer where
  | unborn
  | live (phase : PollPhase)
  | ended
  deriving DecidableEq, Repr

/-- When the next tick falls due, once there was a first one. -/
def PollPhase.nextTick? : PollPhase → Option Nat
  | .spawned => none
  | .waiting due => some due
  | .retrieving _ _ due => some due

/-- What can happen to a timer at `now`: the retrievals that start and the end of its activation. -/
inductive TimerStep (period now : Nat) :
    Timer → Timer → List PollStart → List Nat → Prop where
  | stay (timer : Timer) : TimerStep period now timer timer [] []
  | skip : TimerStep period now .unborn .ended [] []
  | spawn : TimerStep period now .unborn (.live .spawned) [] []
  | stop (phase : PollPhase) : TimerStep period now (.live phase) .ended [] [now]
  | first (number : Nat) :
    TimerStep period now (.live .spawned) (.live (.retrieving number now (nextDue period now now)))
      [⟨now, number, .tick now⟩] []
  | tick {due : Nat} (number : Nat) (reached : due ≤ now) :
    TimerStep period now (.live (.waiting due))
      (.live (.retrieving number now (nextDue period now due))) [⟨now, number, .tick due⟩] []
  | refresh {due : Nat} (number : Nat) (early : now < due) :
    TimerStep period now (.live (.waiting due)) (.live (.retrieving number now due))
      [⟨now, number, .refresh⟩] []
  | settle {number since due : Nat} :
    TimerStep period now (.live (.retrieving number since due)) (.live (.waiting due)) [] []

namespace Subscription

variable {α : Type} {s s' : Subscription α} {g now : Nat} {t : PollTask} {t' : Option PollTask}

/-- Where the task of an activation stands. -/
def phase? (s : Subscription α) (g : Nat) : Option PollPhase :=
  (s.task? g).map (·.phase)

def timer (s : Subscription α) (g : Nat) : Timer :=
  if s.generation < g then .unborn
  else if s.activation = some g then (s.phase? g).elim .ended .live
  else .ended

theorem timer_of_lt (h : s.generation < g) : s.timer g = .unborn :=
  if_pos h

theorem timer_of_over (hle : g ≤ s.generation) (hover : s.activation ≠ some g) :
    s.timer g = .ended := by
  simp [timer, Nat.not_lt.2 hle, hover]

theorem IsOrderly.timer_of_active (ho : s.IsOrderly) (active : s.activation = some g) :
    s.timer g = (s.phase? g).elim .ended .live := by
  have hg := ho.newest g active
  simp [timer, active, hg]

theorem timer_congr (hgeneration : s'.generation = s.generation)
    (hactivation : s'.activation = s.activation)
    (hphase : s.activation = some g → s'.phase? g = s.phase? g) : s'.timer g = s.timer g := by
  unfold timer
  rw [hgeneration, hactivation]
  by_cases active : s.activation = some g
  · rw [hphase active]
  · simp only [active, if_false]

theorem phase?_eq (found : s.task? t.generation = some t) :
    s.phase? t.generation = some t.phase := by
  rw [phase?, found, Option.map_some]

theorem phase?_put_of_ne (keeps : ∀ x ∈ t', x.generation = t.generation) (hg : g ≠ t.generation) :
    (s.put t.generation t').phase? g = s.phase? g :=
  congrArg (Option.map PollTask.phase) (find?_replaceFirst_ne keeps hg)

theorem IsOrderly.phase?_put (ho : s.IsOrderly) (found : s.task? t.generation = some t)
    (keeps : ∀ x ∈ t', x.generation = t.generation) :
    (s.put t.generation t').phase? t.generation = t'.map (·.phase) :=
  congrArg (Option.map PollTask.phase) (find?_replaceFirst_self ho.distinct found keeps)

theorem timer_put_of_ne (keeps : ∀ x ∈ t', x.generation = t.generation) (hg : g ≠ t.generation) :
    (s.put t.generation t').timer g = s.timer g :=
  timer_congr rfl rfl fun _ => phase?_put_of_ne keeps hg

theorem timer_put_of_over (hover : s.activation ≠ some t.generation)
    (keeps : ∀ x ∈ t', x.generation = t.generation) : (s.put t.generation t').timer g = s.timer g :=
  timer_congr rfl rfl fun active => phase?_put_of_ne keeps fun hg => hover (hg ▸ active)

theorem IsOrderly.timer_current (ho : s.IsOrderly) (found : s.task? t.generation = some t)
    (active : s.activation = some t.generation) : s.timer t.generation = .live t.phase := by
  rw [ho.timer_of_active active, phase?_eq found]
  rfl

theorem IsOrderly.timer_replace {u : PollTask} (ho : s.IsOrderly)
    (found : s.task? t.generation = some t) (active : s.activation = some t.generation)
    (hg : u.generation = t.generation) (hs : u.stopRequested = t.stopRequested) :
    (s.put t.generation (some u)).timer t.generation = .live u.phase := by
  have hfound : (s.put t.generation (some u)).task? t.generation = some u :=
    find?_replaceFirst_some hg found
  rw [← hg] at hfound active ⊢
  have horderly : (s.put t.generation (some u)).IsOrderly := ho.replace found hg hs
  rw [← hg] at horderly
  exact horderly.timer_current hfound active

theorem timer_activate (ho : s.IsOrderly) (inactive : s.activation = none) :
    s.activate.1.timer (s.generation + 1) = .live .spawned := by
  let fresh : PollTask := { generation := s.generation + 1 }
  have hmem : fresh ∈ s.activate.1.tasks := by simp [tasks_activate, fresh]
  have horderly := ho.activate inactive
  exact horderly.timer_current (t := fresh) ((find?_eq_some_iff_mem horderly.distinct).2 hmem)
    (activation_activate s)

theorem IsOrderly.timer_ne_ended (ho : s.IsOrderly) (active : s.activation = some g) :
    s.timer g ≠ .ended := by
  obtain ⟨t, ht, rfl⟩ := ho.attended g active
  rw [ho.timer_current ((find?_eq_some_iff_mem ho.distinct).2 ht) active]
  simp

theorem activation_of_timer {phase : PollPhase} (h : s.timer g = .live phase) :
    s.activation = some g := by
  by_contra hover
  simp only [timer, if_neg hover] at h
  split at h <;> cases h

/-- All tasks change, but their phases stay. -/
theorem phase?_of_map {f : PollTask → PollTask} (hg : ∀ t, (f t).generation = t.generation)
    (hp : ∀ t, (f t).phase = t.phase) (htasks : s'.tasks = s.tasks.map f) :
    s'.phase? g = s.phase? g := by
  have hkey : (fun t => (f t).generation == g) = fun t : PollTask => t.generation == g :=
    funext fun t => by rw [hg]
  have hfind : s'.task? g = (s.task? g).map f := by
    rw [task?, htasks, List.find?_map]
    exact congrArg (fun test => (s.tasks.find? test).map f) hkey
  simp [phase?, hfind, Function.comp_def, hp]

end Subscription

namespace PollTask

variable {t : PollTask} {period now due next refreshes : Nat} {trigger : PollTrigger}

theorem lt_of_choose_wait (h : t.choose period now due = .wait) : now < due := by
  unfold choose at h
  split at h
  · cases h
  · split at h
    · cases h
    · omega

/-- A task that chooses to retrieve takes the tick that is due, or heeds a request before that. -/
theorem cases_of_choose_retrieve
    (h : t.choose period now due = .retrieve trigger next refreshes) :
    (due ≤ now ∧ trigger = .tick due ∧ next = nextDue period now due) ∨
      (now < due ∧ trigger = .refresh ∧ next = due) := by
  unfold choose at h
  split at h
  · cases h
  · split at h
    · next hdue =>
      obtain ⟨rfl, rfl, _⟩ := PollChoice.retrieve.inj h
      exact .inl ⟨hdue, rfl, rfl⟩
    · next hdue =>
      split at h
      · obtain ⟨rfl, rfl, _⟩ := PollChoice.retrieve.inj h
        exact .inr ⟨Nat.lt_of_not_le hdue, rfl, rfl⟩
      · cases h

theorem cases_of_due? (h : t.due? now = some due) :
    (t.phase = .spawned ∧ due = now) ∨ t.phase = .waiting due := by
  unfold due? at h
  cases hp : t.phase with
  | spawned => exact .inl ⟨rfl, by simpa [hp, eq_comm] using h⟩
  | waiting due' => exact .inr (by simpa [hp] using h)
  | retrieving number since due' => simp [hp] at h

end PollTask

namespace Subscription

variable {α : Type} {s s' : Subscription α} {g now : Nat} {t : PollTask} {t' : Option PollTask}

theorem timerStep_activate (ho : s.IsOrderly) (inactive : s.activation = none) (g now : Nat) :
    TimerStep s.interval.nanos now (s.timer g) (s.activate.1.timer g) [] [] := by
  have hgeneration := generation_activate s
  have hactivation := activation_activate s
  rcases Nat.lt_trichotomy g (s.generation + 1) with hlt | rfl | hgt
  · have hbefore : s.timer g = .ended := timer_of_over (Nat.le_of_lt_succ hlt) (by simp [inactive])
    have hafter : s.activate.1.timer g = .ended := by
      refine timer_of_over (by omega) ?_
      rw [hactivation, ne_eq, Option.some.injEq]
      omega
    rw [hbefore, hafter]
    exact .stay .ended
  · rw [timer_of_lt (Nat.lt_succ_self _), timer_activate ho inactive]
    exact .spawn
  · rw [timer_of_lt (by omega), timer_of_lt (by omega)]
    exact .stay .unborn

theorem timerStep_deactivate {g' : Nat} (ho : s.IsOrderly) (active : s.activation = some g')
    (g now : Nat) :
    TimerStep s.interval.nanos now (s.timer g) (s.deactivate.1.timer g)
      (startsOf g (s.deactivate.2.map (now, ·))) (endsOf g (s.deactivate.2.map (now, ·))) := by
  have hgeneration := generation_deactivate active
  have hnewest := ho.newest g' active
  have hafter (hle : g ≤ s.deactivate.1.generation) : s.deactivate.1.timer g = .ended :=
    timer_of_over hle (by simp [activation_deactivate])
  have hevents : s.deactivate.2.map (now, ·) = [(now, .deactivated g')] := by
    simp [deactivate, active]
  rw [hevents]
  by_cases hg : g' = g
  · subst hg
    obtain ⟨t, ht, rfl⟩ := ho.attended g' active
    have found : s.task? t.generation = some t := (find?_eq_some_iff_mem ho.distinct).2 ht
    rw [ho.timer_current found active, hafter (by omega)]
    simpa [startsOf, endsOf] using TimerStep.stop t.phase
  · have hstarts : startsOf g [(now, (.deactivated g' : PollEvent α))] = [] := rfl
    have hends : endsOf g [(now, (.deactivated g' : PollEvent α))] = [] := by simp [endsOf, hg]
    rw [hstarts, hends]
    by_cases hlt : s.generation < g
    · rw [timer_of_lt hlt]
      by_cases hnext : s.deactivate.1.generation < g
      · rw [timer_of_lt hnext]
        exact .stay .unborn
      · rw [hafter (Nat.le_of_not_lt hnext)]
        exact .skip
    · have hbefore : s.timer g = .ended :=
        timer_of_over (Nat.le_of_not_lt hlt) (by simpa [active] using hg)
      rw [hbefore, hafter (by omega)]
      exact .stay .ended

theorem timer_refresh {g' : Nat} (active : s.activation = some g') (g : Nat) :
    s.refresh.timer g = s.timer g := by
  have hframe : s.refresh.activation = s.activation ∧ s.refresh.generation = s.generation := by
    simp [Subscription.refresh, active, Subscription.generation, snapshot]
  refine timer_congr hframe.2 hframe.1 fun _ => ?_
  refine phase?_of_map (fun t => ?_) (fun t => ?_) (tasks_refresh active)
  all_goals split <;> simp

/-- A task that waits on does not move its timer. -/
theorem IsOrderly.timer_wait {due : Nat} (ho : s.IsOrderly)
    (found : s.task? t.generation = some t) (chooses : t.due? now = some due)
    (choice : t.choose s.interval.nanos now due = .wait) (g : Nat) :
    (s.put t.generation (some { t with phase := .waiting due })).timer g = s.timer g := by
  rcases PollTask.cases_of_due? chooses with ⟨_, rfl⟩ | hwaiting
  · exact absurd (PollTask.lt_of_choose_wait choice) (Nat.lt_irrefl _)
  · refine timer_congr rfl rfl fun _ => ?_
    by_cases hg : g = t.generation
    · rw [hg, ho.phase?_put found (by simp), phase?_eq found, hwaiting]
      rfl
    · exact phase?_put_of_ne (by simp) hg

theorem timerStep_start {due next refreshes : Nat} {trigger : PollTrigger} (ho : s.IsOrderly)
    (found : s.task? t.generation = some t) (chooses : t.due? now = some due)
    (choice : t.choose s.interval.nanos now due = .retrieve trigger next refreshes)
    (current : s.generation = t.generation) (g : Nat) :
    TimerStep s.interval.nanos now (s.timer g)
      ((s.countStart.put t.generation
        (some { t with phase := .retrieving (s.started + 1) now next, refreshes })).timer g)
      (startsOf g [(now, (.started (s.started + 1) t.generation trigger : PollEvent α))]) [] := by
  have active := ho.current t (mem_of_task? found) current.symm
  have hcounted : s.countStart.IsOrderly := ho.congr rfl rfl rfl
  by_cases hg : t.generation = g
  · subst hg
    have hstarts : startsOf t.generation [(now,
        (.started (s.started + 1) t.generation trigger : PollEvent α))] =
        [⟨now, s.started + 1, trigger⟩] := by
      simp [startsOf]
    have hafter := hcounted.timer_replace
      (u := { t with phase := .retrieving (s.started + 1) now next, refreshes })
      found active rfl rfl
    rw [hstarts, ho.timer_current found active, hafter]
    rcases PollTask.cases_of_choose_retrieve choice with ⟨hdue, rfl, rfl⟩ | ⟨hearly, rfl, rfl⟩
    · rcases PollTask.cases_of_due? chooses with ⟨hspawned, rfl⟩ | hwaiting
      · rw [hspawned]
        exact .first _
      · rw [hwaiting]
        exact .tick _ hdue
    · rcases PollTask.cases_of_due? chooses with ⟨_, rfl⟩ | hwaiting
      · exact absurd hearly (Nat.lt_irrefl _)
      · rw [hwaiting]
        exact .refresh _ hearly
  · have hstarts : startsOf g [(now,
        (.started (s.started + 1) t.generation trigger : PollEvent α))] = [] := by
      simp [startsOf, hg]
    have hafter : (s.countStart.put t.generation
        (some { t with phase := .retrieving (s.started + 1) now next, refreshes })).timer g =
        s.timer g :=
      (timer_put_of_ne (by simp) (Ne.symm hg)).trans (timer_congr rfl rfl fun _ => rfl)
    rw [hstarts, hafter]
    exact .stay _

theorem timerStep_apply {number since due : Nat} (outcome : Except RetrievalError α)
    (ho : s.IsOrderly) (found : s.task? t.generation = some t)
    (busy : t.phase = .retrieving number since due) (current : s.generation = t.generation)
    (g : Nat) :
    TimerStep s.interval.nanos now (s.timer g)
      (((s.applyOutcome t now outcome).put t.generation
        (some { t.afterFirst with phase := .waiting due })).timer g) [] [] := by
  have active := ho.current t (mem_of_task? found) current.symm
  have hgeneration := applyOutcome_generation s t now outcome
  have happlied : (s.applyOutcome t now outcome).IsOrderly := ho.congr rfl rfl hgeneration
  by_cases hg : t.generation = g
  · subst hg
    have hafter := happlied.timer_replace (u := { t.afterFirst with phase := .waiting due })
      found active rfl rfl
    rw [ho.timer_current found active, busy, hafter]
    exact .settle
  · have hbefore : (s.applyOutcome t now outcome).timer g = s.timer g :=
      timer_congr hgeneration rfl fun _ => rfl
    have hafter : ((s.applyOutcome t now outcome).put t.generation
        (some { t.afterFirst with phase := .waiting due })).timer g =
        (s.applyOutcome t now outcome).timer g :=
      timer_put_of_ne (by simp [PollTask.afterFirst]) (Ne.symm hg)
    rw [hafter, hbefore]
    exact .stay _

/-- What a move does to the timer of an activation is a step of that timer. -/
theorem Move.timerStep {es : List (PollEvent α)} (hm : Move now s s' es) (ho : s.IsOrderly)
    (g : Nat) :
    TimerStep s.interval.nanos now (s.timer g) (s'.timer g) (startsOf g (es.map (now, ·)))
      (endsOf g (es.map (now, ·))) := by
  cases hm with
  | settings => exact .stay (s.timer g)
  | activate inactive => exact timerStep_activate ho inactive g now
  | deactivate active => exact timerStep_deactivate ho active g now
  | refresh active =>
    rw [timer_refresh active]
    exact .stay _
  | leave found _ ended =>
    rw [timer_put_of_over (ho.ne_of_over (mem_of_task? found) ended) (by simp)]
    exact .stay _
  | wait found chooses choice =>
    rw [ho.timer_wait found chooses choice]
    exact .stay _
  | start found chooses choice current => exact timerStep_start ho found chooses choice current g
  | apply outcome found busy current =>
    cases outcome <;> exact timerStep_apply _ ho found busy current g
  | discard found _ stale =>
    rw [timer_put_of_over (ho.ne_of_over (mem_of_task? found) (Or.inr stale)) (by simp)]
    exact .stay _

theorem Move.interval_eq {es : List (PollEvent α)} (hm : Move now s s' es) :
    s'.interval = s.interval := by
  cases hm with
  | deactivate active => simp [Subscription.deactivate, active]
  | refresh active => simp [Subscription.refresh, active]
  | _ => rfl

end Subscription


-- ---------------------------------------------------------------------------
-- Ticks on schedule
-- ---------------------------------------------------------------------------

/-- Each tick was due when the schedule said, and none was taken too early. -/
structure IsScheduled (period : Nat) (ticks : List Tick) : Prop where
  chain : ticks.IsChain fun x y => y.due = nextDue period x.taken x.due
  reached : ∀ x ∈ ticks, x.due ≤ x.taken

namespace IsScheduled

variable {period d₀ : Nat} {x : Tick} {ticks : List Tick}

theorem snoc (h : IsScheduled period ticks) (reached : x.due ≤ x.taken)
    (next : ∀ y ∈ ticks.getLast?, x.due = nextDue period y.taken y.due) :
    IsScheduled period (ticks ++ [x]) where
  chain := List.isChain_append.2 ⟨h.chain, List.isChain_singleton _, by simpa using next⟩
  reached := by simpa [or_imp, forall_and] using ⟨h.reached, reached⟩

theorem tail (h : IsScheduled period (x :: ticks)) : IsScheduled period ticks :=
  ⟨h.chain.tail, fun y hy => h.reached y (List.mem_cons_of_mem x hy)⟩

theorem second (h : IsScheduled period (x :: ticks)) :
    ∀ y ∈ ticks.head?, y.due = nextDue period x.taken x.due := by
  intro y hy
  obtain ⟨rest, rfl⟩ := List.head?_eq_some_iff.1 hy
  exact (List.isChain_cons_cons.1 h.chain).1

/-- If the first tick is on the grid, all are. -/
theorem grid (h : IsScheduled period ticks) (hperiod : 0 < period)
    (opens : ∀ x ∈ ticks.head?, ∃ k, x.due = d₀ + k * period) :
    ∀ x ∈ ticks, ∃ k, x.due = d₀ + k * period := by
  induction ticks with
  | nil => simp
  | cons x rest ih =>
    obtain ⟨k, hk⟩ := opens x rfl
    refine List.forall_mem_cons.2 ⟨⟨k, hk⟩, ih h.tail fun y hy => ?_⟩
    obtain ⟨m, _, hm⟩ := nextDue_eq hperiod (h.reached x List.mem_cons_self)
    exact ⟨k + m, by rw [h.second y hy, hm, hk, Nat.add_mul, Nat.add_assoc]⟩

theorem increasing (h : IsScheduled period ticks) (hperiod : 0 < period) :
    ticks.Pairwise (·.due < ·.due) := by
  have htrans : IsTrans Tick (·.due < ·.due) := ⟨fun _ _ _ => Nat.lt_trans⟩
  refine List.isChain_iff_pairwise.1 (h.chain.imp_of_mem_imp fun x y hx _ hy => ?_)
  rw [hy]
  exact lt_nextDue hperiod (h.reached x hx)

/-- By any time, at most as many ticks were taken as the grid has instants until then. -/
theorem bounded (h : IsScheduled period ticks) (hperiod : 0 < period)
    (grid : ∀ x ∈ ticks, ∃ k, x.due = d₀ + k * period) (t : Nat) :
    (ticks.filter (·.taken ≤ t)).length ≤ (t - d₀) / period + 1 := by
  let index (x : Tick) := (x.due - d₀) / period
  have hindex : ∀ x ∈ ticks, x.due = d₀ + index x * period := by
    intro x hx
    obtain ⟨k, hk⟩ := grid x hx
    simp only [index, hk, Nat.add_sub_cancel_left, Nat.mul_div_cancel _ hperiod]
  have hsub : (ticks.filter (·.taken ≤ t)).Sublist ticks := List.filter_sublist
  have hdistinct : ((ticks.filter (·.taken ≤ t)).map index).Nodup := by
    refine List.pairwise_map.2 (((h.increasing hperiod).sublist hsub).imp_of_mem ?_)
    intro x y hx hy hlt heq
    rw [hindex x (hsub.subset hx), hindex y (hsub.subset hy), heq] at hlt
    exact Nat.lt_irrefl _ hlt
  have hbelow : (ticks.filter (·.taken ≤ t)).map index ⊆ List.range ((t - d₀) / period + 1) := by
    intro k hk
    obtain ⟨x, hx, rfl⟩ := List.mem_map.1 hk
    obtain ⟨hmem, htaken⟩ := List.mem_filter.1 hx
    have hdue : x.due ≤ t := Nat.le_trans (h.reached x hmem) (by simpa using htaken)
    exact List.mem_range.2 (Nat.lt_succ_of_le (Nat.div_le_div_right (Nat.sub_le_sub_right hdue d₀)))
  have hlength := (hdistinct.subperm hbelow).length_le
  rwa [List.length_map, List.length_range] at hlength

/-- Ticks that are all taken when they are due fill the grid from its start. -/
theorem eq_range (h : IsScheduled period ticks) (opens : ∀ x ∈ ticks.head?, x.due = d₀)
    (exact : ∀ x ∈ ticks, x.taken = x.due) :
    ticks = (List.range ticks.length).map fun k => ⟨d₀ + k * period, d₀ + k * period⟩ := by
  induction ticks generalizing d₀ with
  | nil => rfl
  | cons x rest ih =>
    have hdue : x.due = d₀ := opens x rfl
    have htaken : x.taken = d₀ := (exact x List.mem_cons_self).trans hdue
    have hx : x = ⟨d₀, d₀⟩ := congrArg₂ Tick.mk hdue htaken
    have hsecond : ∀ y ∈ rest.head?, y.due = d₀ + period := by
      intro y hy
      rw [h.second y hy, hdue, htaken, nextDue_of_punctual]
    have hrest := ih h.tail hsecond fun y hy => exact y (List.mem_cons_of_mem x hy)
    have hshift : ∀ k, d₀ + period + k * period = d₀ + (k + 1) * period := by
      intro k
      rw [Nat.add_mul, Nat.one_mul, Nat.add_assoc, Nat.add_comm period]
    rw [List.length_cons, List.range_succ_eq_map, List.map_cons, List.map_map]
    refine congrArg₂ List.cons ?_ ?_
    · simpa using hx
    · rw [hrest]
      simp [hshift]

end IsScheduled


-- ---------------------------------------------------------------------------
-- Timers follow the schedule
-- ---------------------------------------------------------------------------

/-- The starts that a timer has made follow the schedule: the first one is for the first tick, the
ticks are on schedule, and the next one is due when the schedule says. -/
structure FollowsSchedule (period : Nat) (timer : Timer) (starts : List PollStart) : Prop where
  fresh : timer = .unborn ∨ timer = .live .spawned → starts = []
  opens : ∀ x ∈ starts.head?, x.trigger = .tick x.time
  scheduled : IsScheduled period (ticksIn starts)
  next : ∀ phase due, timer = .live phase → phase.nextTick? = some due →
    ∃ x ∈ (ticksIn starts).getLast?, due = nextDue period x.taken x.due

namespace FollowsSchedule

variable {period now : Nat} {timer timer' : Timer} {starts new : List PollStart} {ends : List Nat}

theorem nil (period : Nat) (h : ∀ phase, timer ≠ .live phase) :
    FollowsSchedule period timer [] := by
  constructor
  case scheduled => exact ⟨List.isChain_nil, by simp [ticksIn]⟩
  all_goals simp [h]

/-- A tick is taken. -/
theorem take (h : FollowsSchedule period timer starts) {due : Nat} (number : Nat)
    (reached : due ≤ now) (opens : starts = [] → due = now)
    (next : ∀ x ∈ (ticksIn starts).getLast?, due = nextDue period x.taken x.due) :
    FollowsSchedule period (.live (.retrieving number now (nextDue period now due)))
      (starts ++ [⟨now, number, .tick due⟩]) := by
  have hticks := ticksIn_snoc_tick starts now number due
  constructor
  case fresh => simp
  case opens =>
    cases starts with
    | nil => simpa using opens rfl
    | cons first rest => exact h.opens
  case scheduled =>
    rw [hticks]
    exact h.scheduled.snoc reached next
  case next =>
    intro phase due' hphase hdue
    obtain rfl := Timer.live.inj hphase
    rw [hticks]
    exact ⟨⟨due, now⟩, by simp, (Option.some.inj hdue).symm⟩

/-- Every step of a timer keeps to the schedule. -/
theorem step (h : FollowsSchedule period timer starts)
    (hstep : TimerStep period now timer timer' new ends) :
    FollowsSchedule period timer' (starts ++ new) := by
  cases hstep with
  | stay => rwa [List.append_nil]
  | skip =>
    rw [List.append_nil]
    exact { h with fresh := by simp, next := by simp }
  | spawn =>
    rw [List.append_nil]
    refine { h with fresh := fun _ => h.fresh (.inl rfl), next := ?_ }
    intro phase due hphase hdue
    obtain rfl := Timer.live.inj hphase
    cases hdue
  | stop =>
    rw [List.append_nil]
    exact { h with fresh := by simp, next := by simp }
  | first number =>
    have hnone := h.fresh (.inr rfl)
    exact h.take number (Nat.le_refl _) (fun _ => rfl) (by simp [hnone, ticksIn])
  | @tick due number reached =>
    obtain ⟨x, hlast, hx⟩ := h.next _ due rfl rfl
    refine h.take number reached (fun hnone => ?_) fun y hy => ?_
    · rw [hnone] at hlast
      cases hlast
    · obtain rfl := Option.some.inj (hlast.symm.trans hy)
      exact hx
  | @refresh due number early =>
    have hticks := ticksIn_snoc_refresh starts now number
    obtain ⟨x, hlast, hx⟩ := h.next _ due rfl rfl
    constructor
    case fresh => simp
    case opens =>
      cases starts with
      | nil => cases hlast
      | cons first rest => exact h.opens
    case scheduled => rw [hticks]; exact h.scheduled
    case next =>
      intro phase due' hphase hdue
      obtain rfl := Timer.live.inj hphase
      rw [hticks]
      exact ⟨x, hlast, (Option.some.inj hdue).symm.trans hx⟩
  | @settle number since due =>
    rw [List.append_nil]
    refine { h with fresh := by simp, next := ?_ }
    intro phase due' hphase hdue
    obtain rfl := Timer.live.inj hphase
    exact h.next _ due' rfl hdue

/-- The first tick is taken by the first retrieval, when it is due. -/
theorem first_tick {first : PollStart} (h : FollowsSchedule period timer starts)
    (hfirst : starts.head? = some first) :
    ∀ x ∈ (ticksIn starts).head?, x.due = first.time := by
  obtain ⟨rest, rfl⟩ := List.head?_eq_some_iff.1 hfirst
  have htrigger : first.trigger = .tick first.time := h.opens first rfl
  simp [ticksIn, PollStart.tick?, htrigger]

end FollowsSchedule

/-- The ticks of these starts stand on the grid that begins at `d₀`. The first start is for the tick
that is due at `d₀`; each further tick was due at a later instant of the grid, which only the tick
before it determines, and was not taken before. -/
structure StandsOnGrid (period d₀ : Nat) (starts : List PollStart) : Prop where
  first : ∃ number, starts.head? = some ⟨d₀, number, .tick d₀⟩
  grid : ∀ x ∈ ticksIn starts, ∃ k, x.due = d₀ + k * period
  increasing : (ticksIn starts).Pairwise (·.due < ·.due)
  reached : ∀ x ∈ ticksIn starts, x.due ≤ x.taken
  bounded : ∀ t, ((ticksIn starts).filter (·.taken ≤ t)).length ≤ (t - d₀) / period + 1
  steady : (ticksIn starts).IsChain fun x y => y.due = nextDue period x.taken x.due

theorem FollowsSchedule.standsOnGrid {period : Nat} {timer : Timer} {starts : List PollStart}
    {first : PollStart} (h : FollowsSchedule period timer starts) (hperiod : 0 < period)
    (hfirst : starts.head? = some first) : StandsOnGrid period first.time starts := by
  have htrigger : first.trigger = .tick first.time := h.opens first hfirst
  have hgrid : ∀ x ∈ ticksIn starts, ∃ k, x.due = first.time + k * period :=
    h.scheduled.grid hperiod fun x hx => ⟨0, by rw [h.first_tick hfirst x hx]; simp⟩
  exact
    { first := ⟨first.number, hfirst.trans (congrArg some (congrArg (PollStart.mk _ _) htrigger))⟩
      grid := hgrid
      increasing := h.scheduled.increasing hperiod
      reached := h.scheduled.reached
      bounded := h.scheduled.bounded hperiod hgrid
      steady := h.scheduled.chain }

namespace Subscription

variable {α : Type}

theorem Moves.interval_eq {now : Nat} {s s' : Subscription α} {es : List (PollEvent α)}
    (h : Moves now s s' es) : s'.interval = s.interval := by
  induction h with
  | refl s => rfl
  | cons first _ ih => rw [ih, first.interval_eq]

theorem interval_life (options : PollOptions) (born : Nat) (actions : List (Nat × PollAction α)) :
    (life options born actions).1.interval = options.interval := by
  induction actions using List.reverseRecOn with
  | nil =>
    simp only [life, run, new]
    split <;> rfl
  | append_singleton actions a ih =>
    rw [life_snoc, (moves_act (isBookkept_life options born actions)
      (isOrderly_life options born actions).distinct a.1 a.2).interval_eq, ih]

theorem IsBlank.timer_ne_live {s : Subscription α} (h : s.IsBlank) (g : Nat) (phase : PollPhase) :
    s.timer g ≠ .live phase := by
  rw [timer, h.activation]
  split <;> simp

/-- The timer of every activation follows the schedule, in every life. -/
theorem followsSchedule_life (options : PollOptions) (born : Nat)
    (actions : List (Nat × PollAction α)) (g : Nat) :
    FollowsSchedule options.interval.nanos ((life options born actions).1.timer g)
      (startsOf g (life options born actions).2) := by
  rw [← interval_life options born actions]
  refine life_induct (P := fun s h => FollowsSchedule s.interval.nanos (s.timer g) (startsOf g h))
    (fun blank => ?_) (fun ho hs hm => ?_) options born actions
  · exact .nil _ (blank.timer_ne_live g)
  · rw [hm.interval_eq, startsOf_append]
    exact hs.step (hm.timerStep ho g)

end Subscription

end DashboardClient
