import DashboardClient.Polling.Subscription

/-!
# Subscriptions on one clock

Subscriptions with scripted sources that share a clock counting nanoseconds. While
the clock stands, each subscription runs until nothing is left to do: retrievals that
are due settle, then tasks that are ready run. Then the clock moves to the next instant
at which something falls due.
-/

namespace DashboardClient

/-- How one retrieval behaves: after how long it settles, if ever, and with what. -/
structure ScriptedRetrieval (α : Type) where
  latency : Option Nat
  outcome : Except RetrievalError α

/-- A source answers each retrieval by its number. -/
abbrev Source (α : Type) := Nat → ScriptedRetrieval α

/-- A subscription on a source, with all that has happened to it, the latest first. -/
structure Polled (α : Type) where
  subscription : Subscription α
  source : Source α
  mostInFlight : Nat := 0
  history : List (Nat × PollEvent α) := []


-- ---------------------------------------------------------------------------
-- The work that is left at one instant
-- ---------------------------------------------------------------------------

/-- A bound on the steps that a task can still take at `now`. -/
def PollTask.work (t : PollTask) (now : Nat) : Nat :=
  match t.phase with
  | .spawned => 2 * (1 + t.refreshes) + 1
  | .waiting due => 2 * (now + 1 - due + t.refreshes) + 1
  | .retrieving _ _ due => 2 * (now + 1 - due + t.refreshes) + 2

/-- A bound on the steps that a subscription's tasks can still take at `now`. -/
def Subscription.work {α : Type} (s : Subscription α) (now : Nat) : Nat :=
  totalWeight (·.work now) s.tasks

namespace Subscription

variable {α : Type}

theorem work_proceed_lt {s : Subscription α} {t : PollTask} {now due : Nat}
    (h : t.stopRequested = true ∨ due ≤ now ∨ 0 < t.refreshes) :
    weightOf (·.work now) (s.proceed t now due).1 < 2 * (now + 1 - due + t.refreshes) + 1 := by
  have hp := s.interval.pos
  unfold proceed PollTask.choose
  by_cases hs : t.stopRequested = true
  · simp [hs, weightOf]
  · by_cases hd : due ≤ now
    · have hlt := lt_nextDue hp hd
      simp only [hs, hd, if_true]
      by_cases hg : s.generation = t.generation
      · simp only [hg, if_true, weightOf, PollTask.work, Bool.false_eq_true, if_false]
        omega
      · simp [hg, weightOf]
    · have hr : 0 < t.refreshes := by
        rcases h with h | h | h
        · exact absurd h hs
        · exact absurd h hd
        · exact h
      simp only [hs, hd, hr, if_true, Bool.false_eq_true, if_false]
      by_cases hg : s.generation = t.generation
      · simp only [hg, if_true, weightOf, PollTask.work]
        omega
      · simp [hg, weightOf]

theorem work_proceed_le {s : Subscription α} {t : PollTask} {now due : Nat} :
    weightOf (·.work now) (s.proceed t now due).1 ≤ 2 * (now + 1 - due + t.refreshes) + 1 := by
  by_cases h : t.stopRequested = true ∨ due ≤ now ∨ 0 < t.refreshes
  · exact Nat.le_of_lt (work_proceed_lt h)
  · simp only [not_or] at h
    obtain ⟨hs, hd, hr⟩ := h
    simp [proceed, PollTask.choose, hs, hd, hr, weightOf, PollTask.work]

end Subscription


-- ---------------------------------------------------------------------------
-- One subscription at one instant
-- ---------------------------------------------------------------------------

namespace Polled

variable {α : Type}

/-- Take a step and note what happens. -/
def act (p : Polled α) (now : Nat) (a : PollAction α) : Polled α :=
  let (subscription, events) := p.subscription.act now a
  { p with
    subscription
    mostInFlight := max p.mostInFlight subscription.inFlight
    history := (events.map fun e => (now, e)).reverse ++ p.history }

/-- When the retrieval that a task is inside of settles. -/
def settlesAt? (p : Polled α) (t : PollTask) : Option Nat :=
  match t.phase with
  | .retrieving number since _ => (p.source number).latency.map (since + ·)
  | _ => none

/-- The retrieval with this number is in flight and settles now. -/
def settlesNow (p : Polled α) (now number : Nat) : Bool :=
  match p.subscription.retrieving? number with
  | none => false
  | some t => (p.settlesAt? t).any (· ≤ now)

/-- The task of this activation would do something now. -/
def runsNow (p : Polled α) (now generation : Nat) : Bool :=
  (p.subscription.task? generation).any (·.isReady now)

/-- The step that is taken next while the clock stands at `now`. -/
def next? (p : Polled α) (now : Nat) : Option (PollAction α) :=
  match (p.subscription.tasks.filterMap (·.retrieval?)).find? (p.settlesNow now) with
  | some number => some (.settle number (p.source number).outcome)
  | none => ((p.subscription.tasks.map (·.generation)).find? (p.runsNow now)).map .turn

theorem work_settle_lt {p : Polled α} {now number : Nat} (outcome : Except RetrievalError α)
    (h : p.settlesNow now number = true) :
    (p.subscription.settle now number outcome).1.work now < p.subscription.work now := by
  unfold settlesNow at h
  split at h
  · cases h
  · next t ht =>
    unfold settlesAt? at h
    split at h
    · next n since due hph =>
      have hw : t.work now = 2 * (now + 1 - due + t.refreshes) + 2 := by
        simp [PollTask.work, hph]
      simp only [Subscription.settle, ht, hph]
      by_cases hg : p.subscription.generation = t.generation
      · have hle : weightOf (·.work now)
            ((p.subscription.applyOutcome t now outcome).proceed t.afterFirst now due).1 ≤
              2 * (now + 1 - due + t.afterFirst.refreshes) + 1 := Subscription.work_proceed_le
        have hr := totalWeight_replaceFirst (·.work now)
          ((p.subscription.applyOutcome t now outcome).proceed t.afterFirst now due).1 ht
        simp only [hg, if_true, Subscription.work] at *
        have hrf : t.afterFirst.refreshes = t.refreshes := rfl
        rw [hrf] at hle
        omega
      · simp only [hg, if_false]
        have hr := totalWeight_replaceFirst (·.work now) none ht
        simp only [Subscription.work, weightOf] at *
        omega
    · cases h

theorem work_turn_lt {p : Polled α} {now generation : Nat}
    (h : p.runsNow now generation = true) :
    (p.subscription.turn now generation).1.work now < p.subscription.work now := by
  unfold runsNow at h
  simp only [Option.any_eq_true] at h
  obtain ⟨t, ht, hready⟩ := h
  have hr := fun t' => totalWeight_replaceFirst (·.work now) t' ht
  simp only [PollTask.isReady] at hready
  simp only [Subscription.turn, ht]
  split at hready
  · next hph =>
    have hlt : weightOf (·.work now) (p.subscription.proceed t now now).1 <
        2 * (now + 1 - now + t.refreshes) + 1 :=
      Subscription.work_proceed_lt (Or.inr (Or.inl (Nat.le_refl _)))
    have := hr (p.subscription.proceed t now now).1
    have hw : t.work now = 2 * (1 + t.refreshes) + 1 := by simp [PollTask.work, hph]
    simp only [hph, Subscription.work] at *
    omega
  · next due hph =>
    have hlt : weightOf (·.work now) (p.subscription.proceed t now due).1 <
        2 * (now + 1 - due + t.refreshes) + 1 :=
      Subscription.work_proceed_lt (by simpa [or_assoc] using hready)
    have := hr (p.subscription.proceed t now due).1
    have hw : t.work now = 2 * (now + 1 - due + t.refreshes) + 1 := by simp [PollTask.work, hph]
    simp only [hph, Subscription.work] at *
    omega
  · cases hready

theorem work_act_lt {p : Polled α} {now : Nat} {a : PollAction α} (h : p.next? now = some a) :
    (p.act now a).subscription.work now < p.subscription.work now := by
  unfold next? at h
  split at h
  · next number hfind =>
    cases h
    exact work_settle_lt _ (List.find?_some hfind)
  · simp only [Option.map_eq_some_iff] at h
    obtain ⟨generation, hfind, rfl⟩ := h
    exact work_turn_lt (List.find?_some hfind)

/-- Take steps at `now` until nothing is left to do. -/
def runUntilIdle (p : Polled α) (now : Nat) : Polled α :=
  match _h : p.next? now with
  | none => p
  | some a => (p.act now a).runUntilIdle now
  termination_by p.subscription.work now
  decreasing_by exact work_act_lt _h

/-- When a task that now waits will do something by itself. -/
def wakesAt? (p : Polled α) (t : PollTask) : Option Nat :=
  match t.phase with
  | .waiting due => some due
  | _ => p.settlesAt? t

/-- The instants after `now` at which something falls due. -/
def wakeTimes (p : Polled α) (now : Nat) : List Nat :=
  (p.subscription.tasks.filterMap p.wakesAt?).filter (now < ·)

end Polled


-- ---------------------------------------------------------------------------
-- The world
-- ---------------------------------------------------------------------------

/-- A receiver and the number of the subscription that it observes. -/
structure PollObserver where
  subscription : Nat
  receiver : Receiver

/-- Subscriptions, numbered in the order in which they were made, their named observers and
the time. -/
structure PollWorld (α : Type) where
  now : Nat := 0
  polled : List (Polled α) := []
  observers : List (String × PollObserver) := []

namespace PollWorld

variable {α : Type}

/-- Add a subscription on a source. Its number is how many there were before. -/
def subscribe (w : PollWorld α) (options : PollOptions) (source : Source α) : PollWorld α :=
  let (subscription, events) := Subscription.new options
  let p : Polled α :=
    { subscription, source, history := (events.map fun e => (w.now, e)).reverse }
  { w with polled := w.polled ++ [p] }

/-- Change one subscription. -/
def modify (w : PollWorld α) (number : Nat) (f : Polled α → Polled α) : PollWorld α :=
  { w with polled := w.polled.modify number f }

/-- The owner of a subscription takes a step. -/
def act (w : PollWorld α) (number : Nat) (a : PollAction α) : PollWorld α :=
  w.modify number (·.act w.now a)

/-- Let a subscription be observed under a name; the current snapshot counts as seen. -/
def watch (w : PollWorld α) (number : Nat) (observer : String) : PollWorld α :=
  match w.polled[number]? with
  | none => w
  | some p =>
    { w with observers :=
        (observer, ⟨number, p.subscription.watched.subscribe⟩) ::
          w.observers.filter (·.1 != observer) }

/-- The observer has seen the current snapshot. -/
def markSeen (w : PollWorld α) (observer : String) : PollWorld α :=
  match w.observers.lookup observer with
  | none => w
  | some o => w.watch o.subscription observer

/-- Every subscription runs until it is idle. -/
def runUntilIdle (w : PollWorld α) : PollWorld α :=
  { w with polled := w.polled.map (·.runUntilIdle w.now) }

/-- The next instant at which something falls due. -/
def nextWake? (w : PollWorld α) : Option Nat :=
  (w.polled.flatMap (·.wakeTimes w.now)).min?

/-- Run everything up to and including the instant `target`. -/
def advanceTo (w : PollWorld α) (target : Nat) : PollWorld α :=
  let idle := w.runUntilIdle
  match idle.nextWake? with
  | none => { idle with now := target }
  | some t =>
    if w.now < t ∧ t ≤ target then advanceTo { idle with now := t } target
    else { idle with now := target }
  termination_by target - w.now

/-- Let time pass. -/
def advance (w : PollWorld α) (nanos : Nat) : PollWorld α :=
  w.advanceTo (w.now + nanos)

end PollWorld

end DashboardClient
