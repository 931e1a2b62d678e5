import DashboardClient.Proofs.Polling.Confluence
import Mathlib.Data.List.Forall2

/-!
# Schedules

A scheduler may let the tasks of all subscriptions take their steps in any order, and moves the
clock only over instants at which no task has one to take. Two such schedulers lead subscriptions
to the same places at the same times, and the one that runs each subscription in turn is among
them.
-/

namespace DashboardClient

variable {α : Type}

theorem forall₂_modify {β : Type} {R : β → β → Prop} {f : β → β} {xs : List β} {i : Nat} {x : β}
    (refl : ∀ y, R y y) (hx : xs[i]? = some x) (hf : R (f x) x) :
    List.Forall₂ R (xs.modify i f) xs := by
  induction xs generalizing i with
  | nil => cases hx
  | cons y xs ih =>
    cases i with
    | zero =>
      obtain rfl := Option.some.inj hx
      exact .cons hf (List.forall₂_same.2 fun z _ => refl z)
    | succ i => exact .cons (refl y) (ih hx)

namespace PollWorld

variable {w w' v u : PollWorld α} {t target : Nat}

-- ---------------------------------------------------------------------------
-- Worlds at rest
-- ---------------------------------------------------------------------------

/-- The clock is set, and nothing else happens. -/
def setClock (w : PollWorld α) (t : Nat) : PollWorld α :=
  { w with now := t }

@[simp] theorem setClock_now (w : PollWorld α) (t : Nat) : (w.setClock t).now = t := rfl

@[simp] theorem setClock_polled (w : PollWorld α) (t : Nat) :
    (w.setClock t).polled = w.polled := rfl

@[simp] theorem setClock_self (w : PollWorld α) : w.setClock w.now = w := rfl

@[simp] theorem setClock_setClock (w : PollWorld α) (t u : Nat) :
    (w.setClock t).setClock u = w.setClock u := rfl

/-- Owners and tasks have led every subscription to where it stands. -/
def IsLived (w : PollWorld α) : Prop :=
  ∀ p ∈ w.polled, p.subscription.IsLived

/-- No task has a step to take at this time. -/
def RestsAt (w : PollWorld α) (time : Nat) : Prop :=
  ∀ p ∈ w.polled, ∀ t ∈ p.subscription.tasks, t.step? p.source time = none

/-- From now on, no task has a step to take before `t`. -/
def RestsUntil (w : PollWorld α) (t : Nat) : Prop :=
  ∀ time, w.now ≤ time → time < t → w.RestsAt time

theorem RestsUntil.mono (h : w.RestsUntil t) {t' : Nat} (hle : t' ≤ t) : w.RestsUntil t' :=
  fun time hnow htime => h time hnow (Nat.lt_of_lt_of_le htime hle)

theorem RestsUntil.setClock (h : w.RestsUntil t) {now : Nat} (hle : w.now ≤ now) :
    (w.setClock now).RestsUntil t :=
  fun time hnow htime => h time (Nat.le_trans hle hnow) htime

namespace IsLived

theorem subscribe (h : w.IsLived) (options : PollOptions) (source : Source α) :
    (w.subscribe options source).IsLived := by
  intro p hp
  rcases List.mem_append.1 hp with hp | hp
  · exact h p hp
  · rw [List.mem_singleton.1 hp]
    exact Subscription.isLived_new options

theorem modify (h : w.IsLived) (number : Nat) {f : Polled α → Polled α}
    (hf : ∀ p : Polled α, p.subscription.IsLived → (f p).subscription.IsLived) :
    (w.modify number f).IsLived := by
  intro p hp
  obtain ⟨i, hi⟩ := List.mem_iff_getElem?.1 hp
  rw [PollWorld.modify, List.getElem?_modify] at hi
  obtain ⟨q, hq, rfl⟩ := Option.map_eq_some_iff.1 hi
  have hlived := h q (List.mem_of_getElem? hq)
  split
  · exact hf q hlived
  · exact hlived

theorem act (h : w.IsLived) (number : Nat) (a : PollAction α) : (w.act number a).IsLived :=
  h.modify number fun _ hp => hp.act w.now a

theorem setClock (h : w.IsLived) (t : Nat) : (w.setClock t).IsLived :=
  h

theorem runUntilIdle (h : w.IsLived) : w.runUntilIdle.IsLived := by
  intro p hp
  obtain ⟨q, hq, rfl⟩ := List.mem_map.1 hp
  exact Polled.isLived_runUntilIdle (h q hq) w.now

end IsLived

theorem runUntilIdle_of_rests (rests : w.RestsAt w.now) : w.runUntilIdle = w := by
  have hsame : w.polled.map (·.runUntilIdle w.now) = w.polled := by
    refine (List.map_congr_left fun p hp => ?_).trans (List.map_id _)
    refine Polled.runUntilIdle_of_none (Option.eq_none_iff_forall_ne_some.2 fun a hnext => ?_)
    obtain ⟨t, ht, step⟩ := Polled.step_of_next? hnext
    cases (rests p hp t ht).symm.trans step
  rw [runUntilIdle, hsame]

theorem rests_of_idle (hw : w.IsLived) (idle : ∀ p ∈ w.polled, p.next? w.now = none) :
    w.RestsAt w.now := by
  intro p hp t ht
  obtain ⟨history, hr⟩ := (hw p hp).isRecorded
  exact Polled.step?_of_next?_eq_none (hw p hp).isOrderly hr ht (idle p hp)

theorem rests_runUntilIdle (hw : w.IsLived) : w.runUntilIdle.RestsAt w.now :=
  rests_of_idle hw.runUntilIdle w.idle_runUntilIdle

/-- A world at rest stays at rest until something falls due. -/
theorem restsUntil_of_wakes (hw : w.IsLived) (idle : ∀ p ∈ w.polled, p.next? w.now = none)
    (wakes : ∀ p ∈ w.polled, ∀ wake ∈ p.wakeTimes w.now, t ≤ wake) : w.RestsUntil t := by
  intro time hnow htime p hp task htask
  obtain ⟨d, rfl⟩ := Nat.exists_eq_add_of_le hnow
  obtain ⟨history, hr⟩ := (hw p hp).isRecorded
  have hwakes : ∀ wake ∈ p.wakeTimes w.now, w.now + (t - w.now) ≤ wake := by
    intro wake hwake
    have hle := wakes p hp wake hwake
    omega
  exact Polled.rests_until_wake (hw p hp).isOrderly hr htask (idle p hp) hwakes (by omega)


-- ---------------------------------------------------------------------------
-- The scheduler
-- ---------------------------------------------------------------------------

/-- The scheduler lets all subscriptions run and then either stops at its target, because nothing
more falls due up to there, or goes on at a later instant, before which nothing does. -/
theorem advanceTo_cases (hw : w.IsLived) (target : Nat) :
    w.runUntilIdle.RestsUntil (target + 1) ∧
        w.advanceTo target = w.runUntilIdle.setClock target ∨
      ∃ t, w.now < t ∧ t ≤ target ∧ w.runUntilIdle.RestsUntil t ∧
        w.advanceTo target = (w.runUntilIdle.setClock t).advanceTo target := by
  have hidle := w.idle_runUntilIdle
  rw [advanceTo]
  cases hwake : w.runUntilIdle.nextWake? with
  | none =>
    refine Or.inl ⟨restsUntil_of_wakes hw.runUntilIdle hidle fun p hp wake hmem => ?_, rfl⟩
    have hempty := List.flatMap_eq_nil_iff.1 (List.min?_eq_none_iff.1 hwake) p hp
    rw [hempty] at hmem
    cases hmem
  | some t =>
    obtain ⟨hmem, hmin⟩ := List.min?_eq_some_iff.1 hwake
    have hfirst : ∀ p ∈ w.runUntilIdle.polled, ∀ wake ∈ p.wakeTimes w.now, t ≤ wake :=
      fun p hp wake hmem => hmin wake (List.mem_flatMap.2 ⟨p, hp, hmem⟩)
    have hlater : w.now < t := by
      obtain ⟨p, _, hp⟩ := List.mem_flatMap.1 hmem
      exact of_decide_eq_true (List.mem_filter.1 hp).2
    by_cases hinside : t ≤ target
    · refine Or.inr ⟨t, hlater, hinside, restsUntil_of_wakes hw.runUntilIdle hidle hfirst, ?_⟩
      simp only [hlater, hinside, and_self, if_true]
      rfl
    · refine Or.inl ⟨restsUntil_of_wakes hw.runUntilIdle hidle fun p hp wake hmem => ?_, ?_⟩
      · exact Nat.le_trans (Nat.lt_of_not_le hinside) (hfirst p hp wake hmem)
      · simp only [hinside, and_false, if_false]
        rfl

theorem advanceTo_runUntilIdle (hw : w.IsLived) (target : Nat) :
    w.runUntilIdle.advanceTo target = w.advanceTo target := by
  have hidle : w.runUntilIdle.runUntilIdle = w.runUntilIdle :=
    runUntilIdle_of_rests (rests_runUntilIdle hw)
  rw [advanceTo, hidle, PollWorld.advanceTo.eq_def w]
  rfl

/-- Where nothing happens, only the clock moves. -/
theorem advanceTo_of_rests {w : PollWorld α} (hw : w.IsLived) (hle : w.now ≤ target)
    (rests : w.RestsUntil (target + 1)) : w.advanceTo target = w.setClock target := by
  have hsame : w.runUntilIdle = w :=
    runUntilIdle_of_rests (rests w.now (Nat.le_refl _) (Nat.lt_succ_of_le hle))
  rcases advanceTo_cases hw target with ⟨_, hstop⟩ | ⟨u, hu, hinside, _, hgo⟩
  · rw [hstop, hsame]
  · rw [hgo, hsame, advanceTo_of_rests (hw.setClock u) hinside (rests.setClock (Nat.le_of_lt hu)),
      setClock_setClock]
  termination_by target - w.now

/-- Where nothing falls due, it makes no difference that the clock has moved on already. -/
theorem advanceTo_setClock {w : PollWorld α} {t : Nat} (hw : w.IsLived) (hle : w.now ≤ t)
    (rests : w.RestsUntil t) (inside : t ≤ target) :
    (w.setClock t).advanceTo target = w.advanceTo target := by
  rcases Nat.eq_or_lt_of_le hle with rfl | hlt
  · rw [setClock_self]
  · have hsame : w.runUntilIdle = w := runUntilIdle_of_rests (rests w.now (Nat.le_refl _) hlt)
    rcases advanceTo_cases hw target with ⟨hrests, hstop⟩ | ⟨u, hu, hinside, hrests, hgo⟩
    · rw [hsame] at hrests hstop
      rw [hstop, advanceTo_of_rests (hw.setClock t) inside (hrests.setClock hle), setClock_setClock]
    · rw [hsame] at hrests hgo
      rw [hgo]
      rcases Nat.le_total t u with htu | hut
      · have hlater := advanceTo_setClock (hw.setClock t) htu (hrests.setClock hle) hinside
        rw [← hlater, setClock_setClock]
      · have hlater :=
          advanceTo_setClock (hw.setClock u) hut (rests.setClock (Nat.le_of_lt hu)) inside
        rw [← hlater, setClock_setClock]
  termination_by target - w.now


-- ---------------------------------------------------------------------------
-- Worlds that match
-- ---------------------------------------------------------------------------

/-- It is the same time, and each subscription matches that with the same number. -/
structure Matches (w v : PollWorld α) : Prop where
  now : w.now = v.now
  polled : List.Forall₂ Polled.Matches w.polled v.polled

namespace Matches

theorem refl (w : PollWorld α) : w.Matches w :=
  ⟨rfl, List.forall₂_same.2 fun p _ => .refl p⟩

theorem trans (h : w.Matches v) (h' : v.Matches u) : w.Matches u := by
  refine ⟨h.now.trans h'.now, ?_⟩
  obtain ⟨-, hpolled⟩ := h
  obtain ⟨-, hpolled'⟩ := h'
  generalize w.polled = xs, v.polled = ys, u.polled = zs at hpolled hpolled'
  induction hpolled generalizing zs with
  | nil => exact hpolled'
  | cons first _ ih =>
    cases hpolled' with
    | cons first' rest' => exact .cons (first.trans first') (ih _ rest')

theorem setClock (h : w.Matches v) (t : Nat) : (w.setClock t).Matches (v.setClock t) :=
  ⟨rfl, h.polled⟩

theorem subscribe (h : w.Matches v) (options : PollOptions) (source : Source α) :
    (w.subscribe options source).Matches (v.subscribe options source) := by
  refine ⟨h.now, List.rel_append h.polled ?_⟩
  rw [h.now]
  exact .cons (.refl _) .nil

theorem modify (h : w.Matches v) (number : Nat) {f : Polled α → Polled α}
    (hf : ∀ p q : Polled α, p.Matches q → (f p).Matches (f q)) :
    (w.modify number f).Matches (v.modify number f) := by
  refine ⟨h.now, ?_⟩
  simp only [PollWorld.modify]
  obtain ⟨-, hpolled⟩ := h
  generalize w.polled = xs, v.polled = ys at hpolled
  induction hpolled generalizing number with
  | nil => simp
  | cons first rest ih =>
    cases number with
    | zero => exact .cons (hf _ _ first) rest
    | succ number => exact .cons first (ih number)

theorem act (h : w.Matches v) (number : Nat) (a : PollAction α) :
    (w.act number a).Matches (v.act number a) := by
  rw [PollWorld.act, PollWorld.act, h.now]
  exact h.modify number fun _ _ hpq => hpq.act v.now a

theorem runUntilIdle (h : w.Matches v) : w.runUntilIdle.Matches v.runUntilIdle := by
  refine ⟨h.now, ?_⟩
  simp only [PollWorld.runUntilIdle, h.now, List.forall₂_map_left_iff, List.forall₂_map_right_iff]
  exact h.polled.imp fun _ _ hp => hp.runUntilIdle v.now

/-- What is the same for subscriptions that match is the same for all of them. -/
theorem map_eq {β : Type} {f : Polled α → β} (h : w.Matches v)
    (hf : ∀ p q : Polled α, p.Matches q → f p = f q) : w.polled.map f = v.polled.map f := by
  rw [← List.forall₂_eq_eq_eq, List.forall₂_map_left_iff, List.forall₂_map_right_iff]
  exact h.polled.imp hf

theorem nextWake? (h : w.Matches v) : w.nextWake? = v.nextWake? := by
  rw [PollWorld.nextWake?, PollWorld.nextWake?, List.flatMap, List.flatMap, h.now,
    h.map_eq fun p q hpq => hpq.wakeTimes v.now]

theorem advanceTo {w v : PollWorld α} (h : w.Matches v) (target : Nat) :
    (w.advanceTo target).Matches (v.advanceTo target) := by
  have hidle := h.runUntilIdle
  rw [PollWorld.advanceTo, PollWorld.advanceTo, ← hidle.nextWake?, ← h.now]
  split
  · exact hidle.setClock target
  · next t _ =>
    split
    · exact (hidle.setClock t).advanceTo target
    · exact hidle.setClock target
  termination_by target - w.now

end Matches

/-- A step of a task that is taken now makes no difference to where the scheduler goes. -/
theorem matches_advanceTo_act (hw : w.IsLived) {number : Nat} {p : Polled α} {a : PollAction α}
    (hp : w.polled[number]? = some p) (ha : p.CanTake w.now a) (target : Nat) :
    ((w.act number a).advanceTo target).Matches (w.advanceTo target) := by
  have hidle : (w.act number a).runUntilIdle.Matches w.runUntilIdle := by
    refine ⟨rfl, ?_⟩
    have hact := Polled.runUntilIdle_act (hw p (List.mem_of_getElem? hp)) ha
    simp only [PollWorld.runUntilIdle, List.forall₂_map_left_iff, List.forall₂_map_right_iff]
    exact forall₂_modify (fun q => Polled.Matches.refl _) hp hact
  rw [← advanceTo_runUntilIdle (hw.act number a), ← advanceTo_runUntilIdle hw]
  exact hidle.advanceTo target


-- ---------------------------------------------------------------------------
-- Any schedule
-- ---------------------------------------------------------------------------

/-- Time goes on to `target` under some scheduler. Tasks take steps in any order, and the clock
moves only while none has a step to take. -/
inductive Advances (target : Nat) : PollWorld α → PollWorld α → Prop where
  | reach {w : PollWorld α} (there : w.now = target) (rests : w.RestsAt w.now) :
    Advances target w w
  | step {w w' : PollWorld α} {number : Nat} {p : Polled α} {a : PollAction α}
    (hp : w.polled[number]? = some p) (ha : p.CanTake w.now a)
    (rest : Advances target (w.act number a) w') : Advances target w w'
  | wait {w w' : PollWorld α} {t : Nat} (later : w.now < t) (inside : t ≤ target)
    (rests : w.RestsUntil t) (rest : Advances target (w.setClock t) w') : Advances target w w'

theorem Advances.isLived (h : Advances target w w') (hw : w.IsLived) : w'.IsLived := by
  induction h with
  | reach => exact hw
  | @step _ _ number _ a _ _ _ ih => exact ih (hw.act number a)
  | @wait _ _ t _ _ _ _ ih => exact ih (hw.setClock t)

/-- Every schedule leads to where the scheduler goes. -/
theorem Advances.matches_advanceTo (h : Advances target w w') (hw : w.IsLived) :
    w'.Matches (w.advanceTo target) := by
  induction h with
  | @reach w there rests =>
    have hstop : w.advanceTo target = w.setClock target := by
      refine advanceTo_of_rests hw (Nat.le_of_eq there) fun time hnow htime => ?_
      obtain rfl : time = w.now := by omega
      exact rests
    rw [hstop, ← there]
    exact .refl w
  | @step w w' number p a hp ha _ ih =>
    exact (ih (hw.act number a)).trans (matches_advanceTo_act hw hp ha target)
  | @wait w w' t later inside rests _ ih =>
    rw [← advanceTo_setClock hw (Nat.le_of_lt later) rests inside]
    exact ih (hw.setClock t)

/-- One subscription of a world may be run until it is idle. -/
theorem Advances.runOne {before after : List (Polled α)} {p : Polled α}
    (h : Advances target { w with polled := before ++ p.runUntilIdle w.now :: after } w') :
    Advances target { w with polled := before ++ p :: after } w' := by
  induction p using Polled.runUntilIdle.induct w.now with
  | case1 p rest => rwa [Polled.runUntilIdle_of_none rest] at h
  | case2 p a next ih =>
    rw [Polled.runUntilIdle_of_some next] at h
    have hfound : (before ++ p :: after)[before.length]? = some p := by simp
    have hacted : (before ++ p :: after).modify before.length (·.act w.now a) =
        before ++ p.act w.now a :: after := by
      simp [List.modify_eq_take_drop]
    refine .step hfound (Polled.step_of_next? next) ?_
    rw [PollWorld.act, PollWorld.modify, hacted]
    exact ih h

/-- All subscriptions of a world may be run until they are idle. -/
theorem Advances.runAll (before : List (Polled α)) {after : List (Polled α)}
    (h : Advances target { w with polled := before ++ after.map (·.runUntilIdle w.now) } w') :
    Advances target { w with polled := before ++ after } w' := by
  induction after generalizing before with
  | nil => exact h
  | cons p after ih =>
    refine .runOne ?_
    have hrest := ih (before ++ [p.runUntilIdle w.now]) (by simpa using h)
    simpa using hrest

/-- The scheduler that runs each subscription in turn is one that there may be. -/
theorem advances_advanceTo {w : PollWorld α} (hw : w.IsLived) (hle : w.now ≤ target) :
    Advances target w (w.advanceTo target) := by
  have hrests := rests_runUntilIdle hw
  have hall {w' : PollWorld α} (h : Advances target w.runUntilIdle w') : Advances target w w' :=
    .runAll [] h
  rcases advanceTo_cases hw target with ⟨hrest, hstop⟩ | ⟨t, hlater, hinside, hrest, hgo⟩
  · rw [hstop]
    refine hall ?_
    rcases Nat.eq_or_lt_of_le hle with rfl | hlt
    · exact .reach rfl hrests
    · refine .wait hlt (Nat.le_refl _) (hrest.mono (Nat.le_succ _)) (.reach rfl ?_)
      exact hrest target hle (Nat.lt_succ_self _)
  · rw [hgo]
    exact hall (.wait hlater hinside hrest
      (advances_advanceTo (hw.runUntilIdle.setClock t) hinside))
  termination_by target - w.now

end PollWorld

end DashboardClient
