import DashboardClient.Proofs.Polling.Prompt
import DashboardClient.Proofs.Polling.TickGrid

/-!
# Punctual ticks

If each retrieval of an activation settles no later than at the next instant of its grid, then in a
prompt run every tick of that activation is taken at the instant at which it is due. So the ticks
fill the grid, up to the end of the activation, whatever is requested in between.
-/

namespace DashboardClient

-- ---------------------------------------------------------------------------
-- Timers that are on time
-- ---------------------------------------------------------------------------

/-- All ticks were taken when they were due. While the timer is live, the next one is not overdue
and the current retrieval started before it is due; when the activation ended, none was overdue. -/
structure IsOnTime (period now : Nat) (timer : Timer) (starts : List PollStart)
    (ends : List Nat) : Prop where
  exact : ∀ x ∈ ticksIn starts, x.taken = x.due
  past : ∀ x ∈ ticksIn starts, x.taken ≤ now
  ahead : ∀ phase, timer = .live phase →
    ∀ x ∈ (ticksIn starts).getLast?, now ≤ nextDue period x.taken x.due
  inFlight : ∀ number since due, timer = .live (.retrieving number since due) →
    since < due ∧ ∃ trigger, ⟨since, number, trigger⟩ ∈ starts
  running : timer ≠ .ended → ends = []
  ended : timer = .ended → starts = [] ∨ ∃ e, ends = [e] ∧
    (∀ x ∈ ticksIn starts, x.taken ≤ e) ∧
      ∀ x ∈ (ticksIn starts).getLast?, e ≤ nextDue period x.taken x.due

namespace IsOnTime

variable {period now : Nat} {timer timer' : Timer} {starts new : List PollStart}
  {ends ends' : List Nat}

theorem nil (period now : Nat) (h : ∀ phase, timer ≠ .live phase) :
    IsOnTime period now timer [] [] := by
  constructor <;> simp [ticksIn, h]

/-- A tick is taken at the instant at which it is due. -/
theorem take {phase : PollPhase} (h : IsOnTime period now (.live phase) starts ends)
    (hperiod : 0 < period) (number : Nat) :
    IsOnTime period now (.live (.retrieving number now (nextDue period now now)))
      (starts ++ [⟨now, number, .tick now⟩]) ends := by
  have hticks := ticksIn_snoc_tick starts now number now
  have hnext : now < nextDue period now now := lt_nextDue hperiod (Nat.le_refl now)
  have hends : ends = [] := h.running (by simp)
  constructor
  case exact => simpa [hticks, or_imp, forall_and] using h.exact
  case past => simpa [hticks, or_imp, forall_and] using h.past
  case ahead => simpa [hticks] using Nat.le_of_lt hnext
  case inFlight =>
    intro number' since due hphase
    obtain ⟨rfl, rfl, rfl⟩ := PollPhase.retrieving.inj (Timer.live.inj hphase)
    exact ⟨hnext, .tick now, by simp⟩
  case running => exact fun _ => hends
  case ended => simp

/-- Every step keeps a timer on time. -/
theorem step (h : IsOnTime period now timer starts ends)
    (schedule : FollowsSchedule period timer starts) (hperiod : 0 < period)
    (hstep : TimerStep period now timer timer' new ends') :
    IsOnTime period now timer' (starts ++ new) (ends ++ ends') := by
  cases hstep with
  | stay => rwa [List.append_nil, List.append_nil]
  | skip =>
    rw [List.append_nil, List.append_nil]
    exact { h with
      ahead := by simp
      inFlight := by simp
      running := by simp
      ended := fun _ => .inl (schedule.fresh (.inl rfl)) }
  | spawn =>
    rw [List.append_nil, List.append_nil]
    have hnone := schedule.fresh (.inl rfl)
    exact { h with
      ahead := by simp [hnone, ticksIn]
      inFlight := by simp
      running := fun _ => h.running (by simp)
      ended := by simp }
  | stop phase =>
    have hends : ends = [] := h.running (by simp)
    rw [List.append_nil]
    exact { h with
      ahead := by simp
      inFlight := by simp
      running := by simp
      ended := fun _ => .inr ⟨now, by rw [hends, List.nil_append], h.past, h.ahead phase rfl⟩ }
  | first number =>
    rw [List.append_nil]
    exact h.take hperiod number
  | @tick due number reached =>
    obtain ⟨x, hlast, hx⟩ := schedule.next _ due rfl rfl
    -- Due by now, and not overdue until now.
    have hdue : due = now := Nat.le_antisymm reached (hx ▸ h.ahead _ rfl x hlast)
    subst hdue
    rw [List.append_nil]
    exact h.take hperiod number
  | @refresh due number early =>
    have hticks := ticksIn_snoc_refresh starts now number
    rw [List.append_nil]
    constructor
    case exact => rw [hticks]; exact h.exact
    case past => rw [hticks]; exact h.past
    case ahead => rw [hticks]; exact fun _ _ => h.ahead _ rfl
    case inFlight =>
      intro number' since due' hphase
      obtain ⟨rfl, rfl, rfl⟩ := PollPhase.retrieving.inj (Timer.live.inj hphase)
      exact ⟨early, .refresh, by simp⟩
    case running => exact fun _ => h.running (by simp)
    case ended => simp
  | settle =>
    rw [List.append_nil, List.append_nil]
    exact { h with
      ahead := fun _ _ => h.ahead _ rfl
      inFlight := by simp
      running := fun _ => h.running (by simp)
      ended := by simp }

/-- Time passes, but not beyond the instant at which the next tick is due. -/
theorem pass (h : IsOnTime period now timer starts ends)
    (schedule : FollowsSchedule period timer starts) {nanos : Nat}
    (rests : ∀ phase due, timer = .live phase → phase.nextTick? = some due → now + nanos ≤ due) :
    IsOnTime period (now + nanos) timer starts ends := by
  refine { h with past := fun x hx => Nat.le_add_right_of_le (h.past x hx), ahead := ?_ }
  intro phase hphase x hlast
  cases hdue : phase.nextTick? with
  | none =>
    cases phase with
    | spawned =>
      rw [schedule.fresh (.inr hphase)] at hlast
      cases hlast
    | _ => cases hdue
  | some due =>
    obtain ⟨y, hy, heq⟩ := schedule.next phase due hphase hdue
    obtain rfl := Option.some.inj (hy.symm.trans hlast)
    exact heq ▸ rests phase due hphase hdue

end IsOnTime


-- ---------------------------------------------------------------------------
-- Retrievals that keep up
-- ---------------------------------------------------------------------------

/-- The first instant of the grid after `t`. -/
def gridAfter (period d₀ t : Nat) : Nat :=
  d₀ + ((t - d₀) / period + 1) * period

theorem gridAfter_le {period d₀ t k : Nat} (hk : 0 < k) (hperiod : 0 < period)
    (h : t < d₀ + k * period) : gridAfter period d₀ t ≤ d₀ + k * period := by
  have hpos : 0 < k * period := Nat.mul_pos hk hperiod
  have hlt : (t - d₀) / period < k := Nat.div_lt_of_lt_mul (by rw [Nat.mul_comm]; omega)
  exact Nat.add_le_add_left (Nat.mul_le_mul_right period hlt) d₀

/-- The retrieval settles by the instant `limit`. -/
def PollStart.SettlesBy {α : Type} (x : PollStart) (source : Source α) (limit : Nat) : Prop :=
  ∃ latency, (source x.number).latency = some latency ∧ x.time + latency ≤ limit

namespace PollRun

variable {α : Type}

def period (r : PollRun α) : Nat :=
  r.options.interval.nanos

/-- The retrievals that an activation starts in this run. -/
def startsOf (r : PollRun α) (g : Nat) : List PollStart :=
  Subscription.startsOf g r.history

/-- The ticks that an activation takes in this run. -/
def ticksOf (r : PollRun α) (g : Nat) : List Tick :=
  ticksIn (r.startsOf g)

/-- The times at which an activation ends in this run. -/
def endsOf (r : PollRun α) (g : Nat) : List Nat :=
  Subscription.endsOf g r.history

/-- Each retrieval of the activation settles by the next instant of the grid that begins with the
first of them. -/
def KeepsUp (r : PollRun α) (source : Source α) (g : Nat) : Prop :=
  ∀ first ∈ (r.startsOf g).head?, ∀ x ∈ r.startsOf g,
    x.SettlesBy source (gridAfter r.period first.time x.time)

/-- The timer of the activation is on time. -/
def IsPunctual (r : PollRun α) (g : Nat) : Prop :=
  IsOnTime r.period r.now (r.subscription.timer g) (r.startsOf g) (r.endsOf g)

variable {r r' : PollRun α} {source : Source α} {g : Nat}

theorem KeepsUp.of_take {a : PollAction α} (h : (r.take a).KeepsUp source g) :
    r.KeepsUp source g := by
  have hstarts : ∃ new, (r.take a).startsOf g = r.startsOf g ++ new :=
    ⟨_, by rw [startsOf, history_take, Subscription.startsOf_append]; rfl⟩
  obtain ⟨new, hnew⟩ := hstarts
  intro first hfirst x hx
  refine h first ?_ x ?_
  · obtain ⟨rest, hrest⟩ := List.head?_eq_some_iff.1 hfirst
    simp [hnew, hrest]
  · simp [hnew, hx]

theorem followsSchedule (r : PollRun α) (g : Nat) :
    FollowsSchedule r.period (r.subscription.timer g) (r.startsOf g) :=
  Subscription.followsSchedule_life r.options r.born r.steps g

theorem moves_take (r : PollRun α) (a : PollAction α) :
    Subscription.Moves r.now r.subscription (r.take a).subscription
      (r.subscription.act r.now a).2 := by
  rw [subscription_take]
  exact Subscription.moves_act (Subscription.isBookkept_life r.options r.born r.steps)
    r.isOrderly.distinct r.now a

end PollRun


-- ---------------------------------------------------------------------------
-- Tasks that rest
-- ---------------------------------------------------------------------------

namespace Subscription

variable {α : Type} {s : Subscription α} {g : Nat}

/-- A live timer is run by the current task. -/
theorem current?_of_timer {phase : PollPhase} (h : s.timer g = .live phase) :
    ∃ t, s.current? = some t ∧ t.phase = phase := by
  have active := activation_of_timer h
  simp only [timer, if_pos active] at h
  split at h
  · cases h
  · cases htask : s.task? g with
    | none => simp [phase?, htask] at h
    | some t =>
      refine ⟨t, by rw [current?, active, Option.bind_some, htask], ?_⟩
      simpa [phase?, htask] using h

theorem IsOrderly.timer_of_current {t : PollTask} (ho : s.IsOrderly) (h : s.current? = some t) :
    s.timer t.generation = .live t.phase :=
  ho.timer_current (current?_eq_some h).2 (current?_eq_some h).1

end Subscription

namespace FollowsSchedule

/-- The next tick is due at an instant of the grid after its first one. -/
theorem next_eq {period due : Nat} {timer : Timer} {phase : PollPhase} {starts : List PollStart}
    {first : PollStart} (h : FollowsSchedule period timer starts) (hperiod : 0 < period)
    (hfirst : starts.head? = some first) (hphase : timer = .live phase)
    (hdue : phase.nextTick? = some due) : ∃ k, 0 < k ∧ due = first.time + k * period := by
  obtain ⟨x, hlast, rfl⟩ := h.next phase due hphase hdue
  have hx := List.mem_of_getLast? hlast
  obtain ⟨k, hk⟩ := (h.standsOnGrid hperiod hfirst).grid x hx
  obtain ⟨m, hm, hnext⟩ := nextDue_eq hperiod (h.scheduled.reached x hx)
  exact ⟨k + m, Nat.add_pos_right k hm, by rw [hnext, hk, Nat.add_mul, Nat.add_assoc]⟩

end FollowsSchedule

namespace PollRun

variable {α : Type} {r : PollRun α} {source : Source α} {g : Nat}

/-- A retrieval that settles by the next instant of the grid settles by the next tick, and a task
that waits rests up to that tick. -/
theorem rests_until_due {nanos : Nat} (keeps : r.KeepsUp source g)
    (onTime : r.IsPunctual g) (rests : r.restsFor source nanos = true) (phase : PollPhase)
    (due : Nat) (hphase : r.subscription.timer g = .live phase)
    (hdue : phase.nextTick? = some due) :
    r.now + nanos ≤ due := by
  have hperiod : 0 < r.period := r.options.interval.pos
  cases nanos with
  | zero =>
    obtain ⟨x, hlast, rfl⟩ := (r.followsSchedule g).next phase due hphase hdue
    exact onTime.ahead phase hphase x hlast
  | succ nanos =>
    obtain ⟨t, hcurrent, rfl⟩ := Subscription.current?_of_timer hphase
    have hrests : t.step? source (r.now + nanos) = none := by
      rwa [restsFor_succ, hcurrent, Option.bind_some, Option.isNone_iff_eq_none] at rests
    cases hp : t.phase with
    | spawned => rw [hp] at hdue; cases hdue
    | waiting due' =>
      rw [hp] at hdue
      obtain rfl := Option.some.inj hdue
      exact t.lt_due_of_rests hp hrests
    | retrieving number since due' =>
      rw [hp] at hphase hdue
      obtain rfl := Option.some.inj hdue
      obtain ⟨hsince, trigger, hmem⟩ := onTime.inFlight number since due' hphase
      obtain ⟨first, hfirst⟩ := Option.ne_none_iff_exists'.1
        (mt List.head?_eq_none_iff.1 (List.ne_nil_of_mem hmem))
      obtain ⟨latency, hlatency, hsettles⟩ := keeps first hfirst _ hmem
      -- It started before the next tick, which is an instant of the grid and so not before the one
      -- by which it settles.
      obtain ⟨k, hk, rfl⟩ := (r.followsSchedule g).next_eq hperiod hfirst hphase rfl
      have hgrid := gridAfter_le hk hperiod hsince
      have hlater := t.lt_settle_of_rests hp hlatency hrests
      exact Nat.le_trans hlater (Nat.le_trans hsettles hgrid)

end PollRun


-- ---------------------------------------------------------------------------
-- Prompt runs are punctual
-- ---------------------------------------------------------------------------

namespace Subscription

variable {α : Type} {s s' : Subscription α} {g now : Nat} {es : List (PollEvent α)}
  {history : List (Nat × PollEvent α)}

/-- While the clock stands, whatever happens keeps a timer on time. -/
theorem Moves.isOnTime (hm : Moves now s s' es) (ho : s.IsOrderly)
    (schedule : FollowsSchedule s.interval.nanos (s.timer g) (startsOf g history))
    (onTime : IsOnTime s.interval.nanos now (s.timer g) (startsOf g history) (endsOf g history)) :
    IsOnTime s'.interval.nanos now (s'.timer g) (startsOf g (history ++ es.map (now, ·)))
      (endsOf g (history ++ es.map (now, ·))) := by
  refine (hm.induct (P := fun s h =>
    FollowsSchedule s.interval.nanos (s.timer g) (startsOf g h) ∧
      IsOnTime s.interval.nanos now (s.timer g) (startsOf g h) (endsOf g h))
    (fun ho hP move => ?_) ho ⟨schedule, onTime⟩).2.2
  obtain ⟨schedule, onTime⟩ := hP
  have hstep := move.timerStep ho g
  rw [move.interval_eq, startsOf_append, endsOf_append]
  exact ⟨schedule.step hstep, onTime.step schedule (Interval.pos _) hstep⟩

end Subscription

namespace PollRun

variable {α : Type} {r r' : PollRun α} {source : Source α} {g : Nat}

theorem period_eq (r : PollRun α) : r.subscription.interval.nanos = r.period :=
  congrArg Interval.nanos (Subscription.interval_life r.options r.born r.steps)

theorem isPunctual_new (options : PollOptions) (born : Nat) (g : Nat) :
    ({ options, born } : PollRun α).IsPunctual g := by
  obtain ⟨blank, hblank, hmoves⟩ := Subscription.new_moves (α := α) options born
  have hnil := hblank.timer_ne_live g
  have hschedule : FollowsSchedule blank.interval.nanos (blank.timer g)
      (Subscription.startsOf g ([] : List (Nat × PollEvent α))) := .nil _ hnil
  have honTime := hmoves.isOnTime hblank.isOrderly hschedule (IsOnTime.nil _ _ hnil)
  rw [IsPunctual, ← period_eq]
  simpa [startsOf, endsOf, subscription, history, Subscription.life, Subscription.run] using honTime

theorem IsPunctual.take (h : r.IsPunctual g) (a : PollAction α) : (r.take a).IsPunctual g := by
  have schedule := r.followsSchedule g
  rw [IsPunctual, ← period_eq] at h
  rw [← period_eq] at schedule
  have honTime := (r.moves_take a).isOnTime r.isOrderly schedule h
  rw [IsPunctual, ← period_eq, startsOf, endsOf, history_take]
  exact honTime

theorem IsPunctual.pass {nanos : Nat} (h : r.IsPunctual g) (keeps : r.KeepsUp source g)
    (rests : r.restsFor source nanos = true) : (r.obey source (.pass nanos)).IsPunctual g :=
  IsOnTime.pass h (r.followsSchedule g) (r.rests_until_due keeps h rests)

theorem KeepsUp.of_obey {c : PollCommand α} (h : (r.obey source c).KeepsUp source g) :
    r.KeepsUp source g := by
  cases c with
  | call a => exact h.of_take
  | pass nanos => exact h
  | poll =>
    unfold obey at h
    cases hstep : r.subscription.current?.bind (·.step? source r.now) with
    | none => rwa [hstep] at h
    | some a => rw [hstep] at h; exact h.of_take

theorem IsPunctual.obey {c : PollCommand α} (h : r.IsPunctual g) (keeps : r.KeepsUp source g)
    (rests : ∀ nanos, c = .pass nanos → r.restsFor source nanos = true) :
    (r.obey source c).IsPunctual g := by
  cases c with
  | call a => exact h.take a
  | pass nanos => exact h.pass keeps (rests nanos rfl)
  | poll =>
    unfold PollRun.obey
    cases r.subscription.current?.bind (·.step? source r.now) with
    | none => exact h
    | some a => exact h.take a

end PollRun

/-- In a prompt run, an activation whose retrievals keep up is punctual. -/
theorem Course.isPunctual {α : Type} {source : Source α} {options : PollOptions} {born g : Nat}
    {script : List (PollCommand α)} {r : PollRun α}
    (course : Course source { options, born } script r)
    (prompt : ({ options, born } : PollRun α).isPrompt source script = true)
    (keeps : r.KeepsUp source g) : r.IsPunctual g := by
  induction course with
  | begin => exact PollRun.isPunctual_new options born g
  | @obey script r' before c ih =>
    rw [PollRun.isPrompt_append, Bool.and_eq_true] at prompt
    have hbefore := ih prompt.1 keeps.of_obey
    refine hbefore.obey keeps.of_obey fun nanos hc => ?_
    subst hc
    rw [before.agrees.restsFor_eq]
    simpa [PollRun.isPrompt] using prompt.2
  | revoked before ht ended step ih => exact (ih prompt keeps.of_take).take _


-- ---------------------------------------------------------------------------
-- Ticks that fill the grid
-- ---------------------------------------------------------------------------

/-- Each instant of the grid before `limit` has its tick, taken at that instant, and there are no
other ticks, except that the one at `limit` may have been taken. -/
structure FillsGrid (period d₀ limit : Nat) (ticks : List Tick) : Prop where
  exact : ticks = (List.range ticks.length).map fun k => ⟨d₀ + k * period, d₀ + k * period⟩
  complete : ∀ k, d₀ + k * period < limit → k < ticks.length
  past : ∀ k < ticks.length, d₀ + k * period ≤ limit

namespace IsScheduled

variable {period d₀ limit : Nat} {ticks : List Tick}

/-- After ticks that fill the grid, the next one is due at the next instant of the grid. -/
theorem nextDue_last (h : IsScheduled period ticks) (opens : ∀ x ∈ ticks.head?, x.due = d₀)
    (exact : ∀ x ∈ ticks, x.taken = x.due) :
    ∀ x ∈ ticks.getLast?, nextDue period x.taken x.due = d₀ + ticks.length * period := by
  intro x hx
  obtain ⟨before, rfl⟩ := List.getLast?_eq_some_iff.1 hx
  have hrange := h.eq_range opens exact
  rw [List.length_append, List.length_singleton, List.range_succ, List.map_append] at hrange
  have hlast := (List.append_inj' hrange rfl).2
  obtain rfl := (List.cons.inj hlast).1
  rw [nextDue_of_punctual, List.length_append, List.length_singleton, Nat.add_mul, Nat.one_mul,
    Nat.add_assoc]

theorem fillsGrid (h : IsScheduled period ticks)
    (opens : ∀ x ∈ ticks.head?, x.due = d₀) (some : ticks ≠ [])
    (exact : ∀ x ∈ ticks, x.taken = x.due) (past : ∀ x ∈ ticks, x.taken ≤ limit)
    (ahead : ∀ x ∈ ticks.getLast?, limit ≤ nextDue period x.taken x.due) :
    FillsGrid period d₀ limit ticks := by
  have hrange := h.eq_range opens exact
  constructor
  case exact => exact hrange
  case complete =>
    intro k hk
    obtain ⟨x, hx⟩ := Option.ne_none_iff_exists'.1 (mt List.getLast?_eq_none_iff.1 some)
    have hnext := ahead x hx
    rw [h.nextDue_last opens exact x hx] at hnext
    have hlt : k * period < ticks.length * period := by omega
    exact Nat.lt_of_mul_lt_mul_right hlt
  case past =>
    intro k hk
    refine past ⟨d₀ + k * period, d₀ + k * period⟩ ?_
    rw [hrange]
    exact List.mem_map.2 ⟨k, List.mem_range.2 hk, rfl⟩

end IsScheduled


-- ---------------------------------------------------------------------------
-- The schedule of an activation
-- ---------------------------------------------------------------------------

namespace PollRun

variable {α : Type}

/-- A task has started no retrieval exactly as long as it has not run. -/
theorem startsOf_eq_nil_iff (r : PollRun α) {t : PollTask} (h : r.subscription.current? = some t) :
    r.startsOf t.generation = [] ↔ t.phase = .spawned := by
  have schedule := r.followsSchedule t.generation
  have htimer := r.isOrderly.timer_of_current h
  constructor
  · intro hnone
    cases hdue : t.phase.nextTick? with
    | none =>
      cases hp : t.phase with
      | spawned => rfl
      | _ => rw [hp] at hdue; cases hdue
    | some due =>
      obtain ⟨x, hlast, _⟩ := schedule.next t.phase due htimer hdue
      rw [hnone] at hlast
      cases hlast
  · intro hspawned
    exact schedule.fresh (.inr (hspawned ▸ htimer))

theorem ticksOf_ne_nil {r : PollRun α} {g : Nat} {first : PollStart}
    (hfirst : (r.startsOf g).head? = some first) : r.ticksOf g ≠ [] := by
  obtain ⟨rest, hrest⟩ := List.head?_eq_some_iff.1 hfirst
  have htrigger : first.trigger = .tick first.time := (r.followsSchedule g).opens first hfirst
  simp [ticksOf, hrest, ticksIn, PollStart.tick?, htrigger]

/-- The ticks of each activation stand on the grid of its period that begins when its task first
runs, and the period is the interval that was asked for. At most one tick retrieval starts for each
instant of the grid, none before that instant, and nothing but the ticks themselves determines which
instants have one. If all retrievals of the activation settle by the next instant of the grid, then
in a prompt run they start for each instant up to the end of the activation, at that instant. -/
theorem ticks_stand_on_grid (r : PollRun α) (g : Nat) :
    (∀ nanos options, PollOptions.every nanos = .ok options →
      r.options.interval = options.interval → r.period = nanos) ∧
    (∀ t, r.subscription.current? = some t → t.generation = g →
      (r.startsOf g = [] ↔ t.phase = .spawned)) ∧
    ∀ first ∈ (r.startsOf g).head?,
      StandsOnGrid r.period first.time (r.startsOf g) ∧
      ∀ source script, Course source { options := r.options, born := r.born } script r →
        ({ options := r.options, born := r.born } : PollRun α).isPrompt source script = true →
        r.KeepsUp source g →
        (r.subscription.activation = some g ∧
          FillsGrid r.period first.time r.now (r.ticksOf g) ∧
          (r.restsFor source 1 = true → ∀ k,
            k < (r.ticksOf g).length ↔ first.time + k * r.period ≤ r.now)) ∨
        (r.subscription.activation ≠ some g ∧ ∃ ended, r.endsOf g = [ended] ∧
          FillsGrid r.period first.time ended (r.ticksOf g)) := by
  have schedule := r.followsSchedule g
  have hperiod : 0 < r.period := r.options.interval.pos
  refine ⟨?_, ?_, fun first hfirst =>
    ⟨schedule.standsOnGrid hperiod hfirst, fun source script course prompt keeps => ?_⟩⟩
  · intro nanos options hevery hinterval
    rw [period, hinterval]
    exact PollOptions.nanos_of_every hevery
  · rintro t hcurrent rfl
    exact r.startsOf_eq_nil_iff hcurrent
  · have onTime : r.IsPunctual g := course.isPunctual prompt keeps
    have hopens := schedule.first_tick hfirst
    have hsome := ticksOf_ne_nil hfirst
    cases htimer : r.subscription.timer g with
    | unborn =>
      rw [schedule.fresh (.inl htimer)] at hfirst
      cases hfirst
    | live phase =>
      have hfills : FillsGrid r.period first.time r.now (r.ticksOf g) :=
        schedule.scheduled.fillsGrid hopens hsome onTime.exact onTime.past
          (onTime.ahead phase htimer)
      refine .inl ⟨Subscription.activation_of_timer htimer, hfills, fun rests k =>
        ⟨hfills.past k, fun hk => ?_⟩⟩
      have hlater := IsOnTime.pass onTime schedule (r.rests_until_due keeps onTime rests)
      exact (schedule.scheduled.fillsGrid hopens hsome hlater.exact hlater.past
        (hlater.ahead phase htimer)).complete k (Nat.lt_succ_of_le hk)
    | ended =>
      refine .inr ⟨fun active => r.isOrderly.timer_ne_ended active htimer, ?_⟩
      rcases onTime.ended htimer with hnone | ⟨ended, hends, hpast, hahead⟩
      · rw [hnone] at hfirst
        cases hfirst
      · exact ⟨ended, hends, schedule.scheduled.fillsGrid hopens hsome onTime.exact hpast hahead⟩

/-- At an interval of one and a half milliseconds, a request between two ticks takes up to the
second one, which starts nevertheless when it is due. -/
theorem ticks_stand_on_grid_with_request :
    let options : PollOptions := { interval := ⟨1500000, by decide⟩ }
    let source : Source Nat := fun n => ⟨some (if n = 2 then 1100000 else 400000), .ok n⟩
    let script : List (PollCommand Nat) :=
      [.poll, .pass 400000, .poll, .call .refresh trivial, .poll, .pass 1100000, .poll,
        .pass 400000, .poll, .pass 1100000, .poll]
    let r := ({ options, born := 0 } : PollRun Nat).undisturbed source script
    r.startsOf 1 =
        [⟨0, 1, .tick 0⟩, ⟨400000, 2, .refresh⟩, ⟨1500000, 3, .tick 1500000⟩,
          ⟨3000000, 4, .tick 3000000⟩] ∧
      StandsOnGrid 1500000 0 (r.startsOf 1) ∧ FillsGrid 1500000 0 3000000 (r.ticksOf 1) := by
  intro options source script r
  have hstarts : r.startsOf 1 =
      [⟨0, 1, .tick 0⟩, ⟨400000, 2, .refresh⟩, ⟨1500000, 3, .tick 1500000⟩,
        ⟨3000000, 4, .tick 3000000⟩] := by
    decide +kernel
  have hoptions : r.options = options := by decide +kernel
  have hperiod : r.period = 1500000 := by decide +kernel
  have hborn : r.born = 0 := by decide +kernel
  have hnow : r.now = 3000000 := by decide +kernel
  have hactive : r.subscription.activation = some 1 := by decide +kernel
  have course : Course source { options := r.options, born := r.born } script r := by
    rw [hoptions, hborn]
    exact course_undisturbed source { options, born := 0 } script
  have prompt : ({ options := r.options, born := r.born } : PollRun Nat).isPrompt source script =
      true := by
    rw [hoptions, hborn]
    simp only [script, isPrompt, restsFor_succ]
    decide +kernel
  have keeps : r.KeepsUp source 1 := by
    intro first hfirst x hx
    rw [hstarts] at hfirst hx
    obtain rfl := Option.some.inj hfirst
    rw [hperiod]
    simp only [List.mem_cons, List.not_mem_nil, or_false] at hx
    rcases hx with rfl | rfl | rfl | rfl <;> exact ⟨_, rfl, by decide⟩
  obtain ⟨_, _, hgrid⟩ := ticks_stand_on_grid r 1
  obtain ⟨hstands, hfills⟩ := hgrid ⟨0, 1, .tick 0⟩ (by rw [hstarts]; rfl)
  rw [hperiod] at hstands hfills
  rcases hfills source script course prompt keeps with ⟨_, hfills, _⟩ | ⟨hover, _⟩
  · exact ⟨hstarts, hstands, hnow ▸ hfills⟩
  · exact absurd hactive hover

end PollRun

end DashboardClient
