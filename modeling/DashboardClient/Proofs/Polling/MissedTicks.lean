import DashboardClient.Proofs.Polling.SnapshotMeaning
import DashboardClient.Proofs.Polling.TickGrid

/-!
# Missed ticks

A tick that falls due while a retrieval is in flight is taken when that settles, and the ticks
between are skipped. But a tick that is hardly late does not count as missed: the one after it may
be due already, and starts a retrieval of its own. So at most one tick is left over from a
retrieval when the interval is as long as the tolerance, and more than one may be when it is
shorter.
-/

namespace DashboardClient

-- ---------------------------------------------------------------------------
-- Ticks that are left over
-- ---------------------------------------------------------------------------

theorem due_add_period_le_nextDue {period now due : Nat} (hperiod : 0 < period) (hdue : due ≤ now) :
    due + period ≤ nextDue period now due := by
  obtain ⟨k, hk, hnext⟩ := nextDue_eq hperiod hdue
  rw [hnext]
  exact Nat.add_le_add_left (Nat.le_mul_of_pos_left period hk) due

theorem lt_nextDue_of_late {period now due : Nat} (hperiod : 0 < period)
    (late : due + lateTolerance < now) : now < nextDue period now due := by
  have := Nat.mod_lt (now - due) hperiod
  rw [nextDue, if_pos late]
  omega

/-- Each tick is due no earlier than any tick before it allows. -/
theorem IsScheduled.spaced {period : Nat} {ticks : List Tick} (h : IsScheduled period ticks)
    (hperiod : 0 < period) : ticks.Pairwise fun y z => nextDue period y.taken y.due ≤ z.due := by
  induction ticks with
  | nil => exact .nil
  | cons y rest ih =>
    refine List.pairwise_cons.2 ⟨fun z hz => ?_, ih h.tail⟩
    cases rest with
    | nil => cases hz
    | cons z₀ rest =>
      rw [← h.second z₀ rfl]
      rcases List.mem_cons.1 hz with rfl | hz
      · exact Nat.le_refl _
      · exact Nat.le_of_lt ((List.pairwise_cons.1 (h.tail.increasing hperiod)).1 z hz)

/-- Ticks that stand at least a period apart cover that much time. -/
theorem due_add_lt_of_spaced {period settled : Nat} {y : Tick} {rest : List Tick}
    (spaced : (y :: rest).Pairwise fun y z => y.due + period ≤ z.due)
    (before : ∀ z ∈ y :: rest, z.due < settled) : y.due + rest.length * period < settled := by
  induction rest generalizing y with
  | nil => simpa using before y List.mem_cons_self
  | cons z rest ih =>
    obtain ⟨hfirst, hrest⟩ := List.pairwise_cons.1 spaced
    have hgap := hfirst z List.mem_cons_self
    have hcover := ih hrest fun u hu => before u (List.mem_cons_of_mem y hu)
    rw [List.length_cons, Nat.add_mul, Nat.one_mul]
    omega

/-- Of the ticks that were due before an instant and are taken from then on, all but the last were
hardly late, so there are no more than fit into the tolerance. -/
theorem length_le_of_taken_after {period settled : Nat} {ticks : List Tick} (hperiod : 0 < period)
    (spaced : ticks.Pairwise fun y z => nextDue period y.taken y.due ≤ z.due)
    (reached : ∀ y ∈ ticks, y.due ≤ y.taken) (before : ∀ y ∈ ticks, y.due < settled)
    (after : ∀ y ∈ ticks, settled ≤ y.taken) :
    ticks.length ≤ (lateTolerance - 1) / period + 1 := by
  cases ticks with
  | nil => exact Nat.zero_le _
  | cons y rest =>
    have hy := after y List.mem_cons_self
    have hcover : y.due + rest.length * period < settled := by
      refine due_add_lt_of_spaced (spaced.imp_of_mem fun {u v} hu _ hnext => ?_) before
      exact Nat.le_trans (due_add_period_le_nextDue hperiod (reached u hu)) hnext
    refine Nat.succ_le_succ ((Nat.le_div_iff_mul_le hperiod).2 ?_)
    cases rest with
    | nil => simp
    | cons z rest =>
      have hnext := (List.pairwise_cons.1 spaced).1 z List.mem_cons_self
      have hz := before z (List.mem_cons_of_mem y List.mem_cons_self)
      have hpunctual : y.taken ≤ y.due + lateTolerance := by
        by_contra late
        have := lt_nextDue_of_late hperiod (Nat.lt_of_not_le late)
        omega
      unfold lateTolerance at hpunctual ⊢
      omega


-- ---------------------------------------------------------------------------
-- Retrievals of an activation follow each other
-- ---------------------------------------------------------------------------

namespace Subscription

variable {α : Type} {s s' : Subscription α} {history : List (Nat × PollEvent α)}
  {now n g : Nat} {es : List (PollEvent α)} {e : PollEvent α}

theorem mem_startsIn_of_mem_startsOf {x : PollStart} (h : x ∈ startsOf g history) :
    (x.number, g) ∈ startsIn history :=
  List.mem_filterMap.2 ⟨_, mem_startsOf_iff.1 h, rfl⟩

/-- A retrieval is started by a task that was not inside one, and has a new number. -/
theorem Move.started_cases (hm : Move now s s' es) (mem : e ∈ es)
    (starts : e.started? = some (n, g)) :
    n = s.started + 1 ∧ ∃ t ∈ s.tasks, t.generation = g ∧ t.retrieval? = none := by
  cases hm with
  | @start t due next refreshes trigger found chooses =>
    obtain rfl := List.mem_singleton.1 mem
    obtain ⟨rfl, rfl⟩ := Prod.mk.inj (Option.some.inj starts)
    exact ⟨rfl, t, mem_of_task? found, rfl, retrieval?_of_due? chooses⟩
  | activate => cases (PollEvent.started?_eq_none (areQuiet_activate s e mem)).symm.trans starts
  | deactivate =>
    cases (PollEvent.started?_eq_none (areQuiet_deactivate s e mem)).symm.trans starts
  | apply outcome =>
    obtain rfl := List.mem_singleton.1 mem
    cases outcome <;> cases starts
  | discard =>
    obtain rfl := List.mem_singleton.1 mem
    cases starts
  | _ => cases mem

/-- A retrieval that settles was in flight. -/
theorem Move.settled_cases (hm : Move now s s' es) (mem : e ∈ es)
    (settles : e.settled? = some n) : ∃ t ∈ s.tasks, t.retrieval? = some n := by
  cases hm with
  | @apply t number since due outcome found busy =>
    obtain rfl := List.mem_singleton.1 mem
    obtain rfl : number = n := by cases outcome <;> exact Option.some.inj settles
    exact ⟨t, mem_of_task? found, PollTask.retrieval?_eq_some_iff.2 ⟨since, due, busy⟩⟩
  | @discard t number since due found busy =>
    obtain rfl := List.mem_singleton.1 mem
    obtain rfl : number = n := Option.some.inj settles
    exact ⟨t, mem_of_task? found, PollTask.retrieval?_eq_some_iff.2 ⟨since, due, busy⟩⟩
  | start =>
    obtain rfl := List.mem_singleton.1 mem
    cases settles
  | activate => cases (PollEvent.settled?_eq_none (areQuiet_activate s e mem)).symm.trans settles
  | deactivate =>
    cases (PollEvent.settled?_eq_none (areQuiet_deactivate s e mem)).symm.trans settles
  | _ => cases mem

theorem Move.mem_startsIn_cases (hm : Move now s s' es)
    (h : (n, g) ∈ startsIn (history ++ es.map (now, ·))) :
    (n, g) ∈ startsIn history ∨
      n = s.started + 1 ∧ ∃ t ∈ s.tasks, t.generation = g ∧ t.retrieval? = none := by
  rw [startsIn, List.filterMap_append] at h
  rcases List.mem_append.1 h with h | h
  · exact .inl h
  · obtain ⟨_, htimed, hstarts⟩ := List.mem_filterMap.1 h
    obtain ⟨e, he, rfl⟩ := List.mem_map.1 htimed
    exact .inr (hm.started_cases he hstarts)

theorem Move.mem_startsOf_cases {x : PollStart} (hm : Move now s s' es)
    (h : x ∈ startsOf g (history ++ es.map (now, ·))) :
    x ∈ startsOf g history ∨ x.time = now ∧ x.number = s.started + 1 := by
  rw [startsOf_append] at h
  rcases List.mem_append.1 h with h | h
  · exact .inl h
  · obtain ⟨e, he, heq⟩ := List.mem_map.1 (mem_startsOf_iff.1 h)
    obtain ⟨htime, rfl⟩ := Prod.mk.inj heq
    exact .inr ⟨htime.symm, (hm.started_cases he rfl).1⟩

/-- What is in flight after more has happened was in flight before, if it had started then. -/
theorem InFlight.of_append {later : List (Nat × PollEvent α)}
    (h : InFlight (history ++ later) n g) (begun : (n, g) ∈ startsIn history) :
    InFlight history n g := by
  refine ⟨begun, fun hsettled => h.2 ?_⟩
  rw [settledIn, List.filterMap_append]
  exact List.mem_append_left _ hsettled

/-- The retrievals of an activation come one after the other: the one in flight is its last one,
and what starts after another one starts when that has settled. -/
structure AreInTurn (history : List (Nat × PollEvent α)) : Prop where
  latest : ∀ n g, InFlight history n g → ∀ m, (m, g) ∈ startsIn history → m ≤ n
  after : ∀ g, ∀ x ∈ startsOf g history, ∀ y ∈ startsOf g history, x.number < y.number →
    ∀ settled e, (settled, e) ∈ history → e.settled? = some x.number → settled ≤ y.time

theorem areInTurn_nil : AreInTurn ([] : List (Nat × PollEvent α)) where
  latest := by simp [startsIn]
  after := by simp [startsOf]

theorem AreInTurn.latest_move (h : AreInTurn history) (hr : s.IsRecorded history)
    (ho : s.IsOrderly) (hm : Move now s s' es)
    (flight : InFlight (history ++ es.map (now, ·)) n g) {m : Nat}
    (started : (m, g) ∈ startsIn (history ++ es.map (now, ·))) : m ≤ n := by
  rcases hm.mem_startsIn_cases flight.1 with hn | ⟨rfl, _⟩
  · have hbefore := flight.of_append hn
    rcases hm.mem_startsIn_cases started with hother | ⟨_, u, hu, hug, hidle⟩
    · exact h.latest n g hbefore m hother
    · -- The task that starts is that of the activation, which is inside the other retrieval.
      obtain ⟨t, ht, hbusy, hg⟩ := (hr.inFlight n g).1 hbefore
      rw [ho.eq_of_generation_eq ht hu (hug.trans hg.symm), hbusy] at hidle
      cases hidle
  · rcases hm.mem_startsIn_cases started with hother | ⟨rfl, _⟩
    · exact Nat.le_succ_of_le (hr.le_started hother)
    · exact Nat.le_refl _

theorem AreInTurn.after_move (h : AreInTurn history) (hr : s.IsRecorded history)
    (clock : ∀ x ∈ history, x.1 ≤ now) (hm : Move now s s' es) {x y : PollStart}
    (hx : x ∈ startsOf g (history ++ es.map (now, ·)))
    (hy : y ∈ startsOf g (history ++ es.map (now, ·))) (hlt : x.number < y.number) {settled : Nat}
    (he : (settled, e) ∈ history ++ es.map (now, ·)) (settles : e.settled? = some x.number) :
    settled ≤ y.time := by
  rcases hm.mem_startsOf_cases hy with hy | ⟨rfl, hnumber⟩
  · have hle := hr.le_started (mem_startsIn_of_mem_startsOf hy)
    rcases hm.mem_startsOf_cases hx with hx | ⟨_, hnumber⟩
    · rcases List.mem_append.1 he with he | he
      · exact h.after g x hx y hy hlt settled e he settles
      · -- What settles now was in flight, so it was the last one to start.
        obtain ⟨e', hmem, heq⟩ := List.mem_map.1 he
        obtain ⟨rfl, rfl⟩ := Prod.mk.inj heq
        obtain ⟨t, ht, hbusy⟩ := hm.settled_cases hmem settles
        have hflight := (hr.inFlight x.number t.generation).2 ⟨t, ht, hbusy, rfl⟩
        obtain rfl := hr.unique hflight.1 (mem_startsIn_of_mem_startsOf hx)
        exact absurd hlt (Nat.not_lt.2
          (h.latest _ _ hflight _ (mem_startsIn_of_mem_startsOf hy)))
    · omega
  · rcases List.mem_append.1 he with he | he
    · exact clock _ he
    · obtain ⟨_, _, heq⟩ := List.mem_map.1 he
      exact Nat.le_of_eq (congrArg Prod.fst heq).symm

theorem AreInTurn.move (h : AreInTurn history) (hr : s.IsRecorded history) (ho : s.IsOrderly)
    (clock : ∀ x ∈ history, x.1 ≤ now) (hm : Move now s s' es) :
    AreInTurn (history ++ es.map (now, ·)) where
  latest _ _ flight _ started := h.latest_move hr ho hm flight started
  after _ _ hx _ hy hlt _ _ he settles := h.after_move hr clock hm hx hy hlt he settles

theorem AreInTurn.moves (h : AreInTurn history) (hr : s.IsRecorded history) (ho : s.IsOrderly)
    (clock : ∀ x ∈ history, x.1 ≤ now) (hm : Moves now s s' es) :
    AreInTurn (history ++ es.map (now, ·)) := by
  refine (hm.induct (P := fun s h => s.IsRecorded h ∧ (∀ x ∈ h, x.1 ≤ now) ∧ AreInTurn h)
    (fun {s s' es h} ho hP hm => ?_) ho ⟨hr, clock, h⟩).2.2.2
  obtain ⟨hr, clock, h⟩ := hP
  refine ⟨hr.move ho hm, ?_, h.move hr ho clock hm⟩
  rw [List.forall_mem_append]
  exact ⟨clock, by simp⟩

/-- While the clock does not go back, the retrievals of every activation come in turn. -/
theorem areInTurn_life {options : PollOptions} {born : Nat} {actions : List (Nat × PollAction α)}
    (clock : (born :: actions.map (·.1)).Pairwise (· ≤ ·)) :
    AreInTurn (life options born actions).2 := by
  induction actions using List.reverseRecOn with
  | nil =>
    obtain ⟨blank, hblank, hm⟩ := new_moves (α := α) options born
    simpa [life, run] using areInTurn_nil.moves hblank.isRecorded hblank.isOrderly (by simp) hm
  | append_singleton actions step ih =>
    obtain ⟨now, a⟩ := step
    rw [List.map_append, ← List.cons_append, List.pairwise_append] at clock
    obtain ⟨hbefore, _, hlast⟩ := clock
    have ho := isOrderly_life options born actions
    rw [life_snoc]
    refine (ih hbefore).moves (isRecorded_life options born actions) ho (fun x hx => ?_)
      (moves_act (isBookkept_life options born actions) ho.distinct now a)
    exact hlast x.1 (time_of_mem_life hx) now (List.mem_singleton.2 rfl)


-- ---------------------------------------------------------------------------
-- Missed ticks
-- ---------------------------------------------------------------------------

/-- The ticks that fell due while the retrieval `x` was in flight, until it settled, and that start
retrievals after it. -/
def leftOver (x : PollStart) (settled : Nat) (starts : List PollStart) : List Tick :=
  (ticksIn (starts.filter (x.number < ·.number))).filter
    fun y => x.time ≤ y.due ∧ y.due < settled

/-- Of the ticks that fell due while a retrieval of the activation was in flight, at most one
starts a retrieval. -/
def SkipsMissed (g : Nat) (history : List (Nat × PollEvent α)) : Prop :=
  ∀ x ∈ startsOf g history, ∀ settled e, (settled, e) ∈ history → e.settled? = some x.number →
    (leftOver x settled (startsOf g history)).length ≤ 1

theorem leftOver_sublist (x : PollStart) (settled : Nat) (starts : List PollStart) :
    (leftOver x settled starts).Sublist (ticksIn starts) :=
  List.filter_sublist.trans (List.filter_sublist.filterMap _)

theorem AreInTurn.taken_of_leftOver (h : AreInTurn history) {x : PollStart}
    (hx : x ∈ startsOf g history) {settled : Nat} (he : (settled, e) ∈ history)
    (settles : e.settled? = some x.number) :
    ∀ y ∈ leftOver x settled (startsOf g history), settled ≤ y.taken := by
  intro y hy
  obtain ⟨z, hz, hzy⟩ := List.mem_filterMap.1 (List.mem_filter.1 hy).1
  obtain ⟨hz, hlt⟩ := List.mem_filter.1 hz
  have htaken : z.time = y.taken := by
    cases htrigger : z.trigger with
    | tick due =>
      simp only [PollStart.tick?, htrigger, Option.some.injEq] at hzy
      rw [← hzy]
    | refresh => simp [PollStart.tick?, htrigger] at hzy
  exact htaken ▸ h.after g x hx z hz (by simpa using hlt) settled e he settles

/-- What is left over from a retrieval fits into the tolerance. -/
theorem length_leftOver_le {options : PollOptions} {born : Nat}
    {actions : List (Nat × PollAction α)} (clock : (born :: actions.map (·.1)).Pairwise (· ≤ ·))
    {x : PollStart} (hx : x ∈ startsOf g (life options born actions).2) {settled : Nat}
    (he : (settled, e) ∈ (life options born actions).2) (settles : e.settled? = some x.number) :
    (leftOver x settled (startsOf g (life options born actions).2)).length ≤
      (lateTolerance - 1) / options.interval.nanos + 1 := by
  have hscheduled := (followsSchedule_life options born actions g).scheduled
  have hsub := leftOver_sublist x settled (startsOf g (life options born actions).2)
  have hperiod := options.interval.pos
  refine length_le_of_taken_after hperiod ((hscheduled.spaced hperiod).sublist hsub)
    (fun y hy => hscheduled.reached y (hsub.subset hy)) (fun y hy => ?_)
    ((areInTurn_life clock).taken_of_leftOver hx he settles)
  simpa using (of_decide_eq_true (List.mem_filter.1 hy).2).2

/-- The first retrieval fails when the second tick is as late as the tolerance allows, and the
second one fails at once. -/
def lateFailures (period : Nat) : List (Nat × PollAction α) :=
  [(0, .turn 1), (period + lateTolerance, .settle 1 (.error (.failed ""))),
   (period + lateTolerance, .settle 2 (.error (.failed "")))]

/-- When the interval is shorter than the tolerance, the third tick is due by then as well. -/
theorem history_of_lateFailures {interval : Interval} (short : interval.nanos < lateTolerance) :
    (life (α := α) { interval } 0 (lateFailures interval.nanos)).2 =
      [(0, .activated 1 none interval.millis), (0, .started 1 1 (.tick 0)),
       (interval.nanos + lateTolerance, .failed 1 1 (.failed "") true),
       (interval.nanos + lateTolerance, .started 2 1 (.tick interval.nanos)),
       (interval.nanos + lateTolerance, .failed 2 1 (.failed "") false),
       (interval.nanos + lateTolerance,
         .started 3 1 (.tick (interval.nanos + interval.nanos)))] := by
  have hdue : interval.nanos ≤ lateTolerance := Nat.le_of_lt short
  simp [lateFailures, life, new, activate, Watched.modify, Watched.write, run, act, turn, task?,
    proceed, PollTask.choose, nextDue, replaceFirst, settle, retrieving?, PollTask.retrieval?,
    applyOutcome, PollTask.afterFirst, outcomeEvent, Snapshot.activate, Snapshot.apply, generation,
    snapshot, hdue]

theorem not_skipsMissed_of_short {interval : Interval} (short : interval.nanos < lateTolerance) :
    ¬SkipsMissed 1 (life (α := α) { interval } 0 (lateFailures interval.nanos)).2 := by
  intro hskips
  rw [history_of_lateFailures short] at hskips
  have hbound := hskips ⟨0, 1, .tick 0⟩ (by simp [startsOf]) (interval.nanos + lateTolerance)
    (.failed 1 1 (.failed "") true) (by simp) rfl
  have hpos : 0 < lateTolerance := by decide
  simp [leftOver, startsOf, ticksIn, PollStart.tick?, short, hpos] at hbound

/-- While the clock does not go back, the ticks that are left over from a retrieval fit into the
tolerance of the timer, whatever the latencies and whatever the owner does. So missed ticks are
skipped at every interval that is no shorter than the tolerance, and at no other. -/
theorem skips_missed_iff (interval : Interval) :
    (∀ (options : PollOptions) (born : Nat) (actions : List (Nat × PollAction α)) (g : Nat),
      options.interval = interval → (born :: actions.map (·.1)).Pairwise (· ≤ ·) →
      ∀ x ∈ startsOf g (life options born actions).2, ∀ settled e,
        (settled, e) ∈ (life options born actions).2 → e.settled? = some x.number →
        (leftOver x settled (startsOf g (life options born actions).2)).length ≤
          (lateTolerance - 1) / interval.nanos + 1) ∧
    ((∀ (options : PollOptions) (born : Nat) (actions : List (Nat × PollAction α)) (g : Nat),
      options.interval = interval → (born :: actions.map (·.1)).Pairwise (· ≤ ·) →
      SkipsMissed g (life options born actions).2) ↔ lateTolerance ≤ interval.nanos) := by
  refine ⟨?_, fun hskips => ?_, fun hlong => ?_⟩
  · rintro options born actions g rfl clock x hx settled e he settles
    exact length_leftOver_le clock hx he settles
  · by_contra hshort
    have clock : (0 :: (lateFailures (α := α) interval.nanos).map (·.1)).Pairwise (· ≤ ·) := by
      simp [lateFailures]
    exact not_skipsMissed_of_short (Nat.lt_of_not_le hshort)
      (hskips { interval } 0 (lateFailures interval.nanos) 1 rfl clock)
  · rintro options born actions g rfl clock x hx settled e he settles
    have hbound := length_leftOver_le clock hx he settles
    rwa [Nat.div_eq_of_lt (Nat.lt_of_lt_of_le (by decide) hlong)] at hbound

/-- Two ticks fall due while the first retrieval of nine milliseconds is in flight. At an interval
of four milliseconds both start a retrieval. -/
theorem missed_ticks_both_start :
    let ms := millisecond
    let options : PollOptions := { interval := ⟨4 * ms, by decide⟩ }
    let actions : List (Nat × PollAction Nat) :=
      [(0, .turn 1), (9 * ms, .settle 1 (.ok 1)), (10 * ms, .settle 2 (.ok 2)),
       (11 * ms, .settle 3 (.ok 3))]
    let history := (life options 0 actions).2
    startsOf 1 history =
        [⟨0, 1, .tick 0⟩, ⟨9 * ms, 2, .tick (4 * ms)⟩, ⟨10 * ms, 3, .tick (8 * ms)⟩] ∧
      leftOver ⟨0, 1, .tick 0⟩ (9 * ms) (startsOf 1 history) =
        [⟨4 * ms, 9 * ms⟩, ⟨8 * ms, 10 * ms⟩] ∧
      ¬SkipsMissed 1 history := by
  intro ms options actions history
  have hstarts : startsOf 1 history =
      [⟨0, 1, .tick 0⟩, ⟨9 * ms, 2, .tick (4 * ms)⟩, ⟨10 * ms, 3, .tick (8 * ms)⟩] := by
    decide +kernel
  have hleft : leftOver ⟨0, 1, .tick 0⟩ (9 * ms) (startsOf 1 history) =
      [⟨4 * ms, 9 * ms⟩, ⟨8 * ms, 10 * ms⟩] := by
    decide +kernel
  refine ⟨hstarts, hleft, fun hskips => ?_⟩
  obtain ⟨⟨settled, e⟩, he, hnine, hsettles⟩ :
      ∃ x ∈ history, x.1 = 9 * ms ∧ x.2.settled? = some 1 := by
    decide +kernel
  obtain rfl : settled = 9 * ms := hnine
  have hbound := hskips ⟨0, 1, .tick 0⟩ (by rw [hstarts]; exact List.mem_cons_self) (9 * ms) e he
    hsettles
  rw [hleft] at hbound
  exact absurd hbound (by decide)

end Subscription

end DashboardClient
