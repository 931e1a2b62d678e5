import DashboardClient.Proofs.Polling.Independence

/-!
# Prompt runs

Time passes promptly in a run when it never passes over an instant at which the current task has a
step to take. The scheduler moves the clock only when all tasks are idle, and at most to the next
instant at which one of them has something to do. So what it does is a prompt run.
-/

namespace DashboardClient

variable {α : Type}

/-- A task that has a step to take keeps it. -/
theorem PollTask.step?_eq_none_of_le {source : Source α} {now later : Nat} (t : PollTask)
    (hle : now ≤ later) (rests : t.step? source later = none) : t.step? source now = none := by
  cases hp : t.phase with
  | spawned => simp [step?, hp, isReady] at rests
  | waiting due =>
    simp only [step?, hp, isReady, ite_eq_right_iff, reduceCtorEq, imp_false, Bool.not_eq_true,
      Bool.or_eq_false_iff, decide_eq_false_iff_not] at rests ⊢
    exact ⟨⟨rests.1.1, fun hdue => rests.1.2 (Nat.le_trans hdue hle)⟩, rests.2⟩
  | retrieving number since due =>
    cases hlatency : (source number).latency with
    | none => simp [step?, hp, hlatency]
    | some latency =>
      simp only [step?, hp, hlatency, Option.map_some, Option.any_some, decide_eq_true_eq,
        ite_eq_right_iff, reduceCtorEq, imp_false] at rests ⊢
      exact fun hsettled => rests (Nat.le_trans hsettled hle)


-- ---------------------------------------------------------------------------
-- Runs in which time passes promptly
-- ---------------------------------------------------------------------------

namespace PollRun

/-- For the next `nanos` nanoseconds, the current task has no step to take. -/
def restsFor (r : PollRun α) (source : Source α) (nanos : Nat) : Bool :=
  (List.range nanos).all fun d =>
    (r.subscription.current?.bind (·.step? source (r.now + d))).isNone

/-- When a run follows the script, time never passes over an instant at which the current task has
a step to take. -/
def isPrompt (r : PollRun α) (source : Source α) : List (PollCommand α) → Bool
  | [] => true
  | .pass nanos :: rest =>
    r.restsFor source nanos && (r.obey source (.pass nanos)).isPrompt source rest
  | c :: rest => (r.obey source c).isPrompt source rest

variable {r r' : PollRun α} {source : Source α}

theorem isPrompt_append (r : PollRun α) (source : Source α) (first rest : List (PollCommand α)) :
    r.isPrompt source (first ++ rest) =
      (r.isPrompt source first && (r.undisturbed source first).isPrompt source rest) := by
  induction first generalizing r with
  | nil => rfl
  | cons c first ih =>
    cases c with
    | pass nanos =>
      simp only [List.cons_append, isPrompt, ih, Bool.and_assoc]
      rfl
    | _ => exact ih _

theorem Agrees.restsFor_eq (h : r.Agrees r') (source : Source α) (nanos : Nat) :
    r.restsFor source nanos = r'.restsFor source nanos := by
  rw [restsFor, restsFor, Subscription.current?_congr h.live, h.now]

/-- A task that has no step to take at the end of a while has had none all the while. -/
theorem restsFor_succ (r : PollRun α) (source : Source α) (nanos : Nat) :
    r.restsFor source (nanos + 1) =
      (r.subscription.current?.bind (·.step? source (r.now + nanos))).isNone := by
  rw [Bool.eq_iff_iff, restsFor, List.all_eq_true]
  constructor
  · intro rests
    exact rests nanos (List.mem_range.2 (Nat.lt_succ_self nanos))
  · intro rests d hd
    cases ht : r.subscription.current? with
    | none => rfl
    | some t =>
      have hle : r.now + d ≤ r.now + nanos := by
        have := List.mem_range.1 hd
        omega
      rw [ht, Option.bind_some, Option.isNone_iff_eq_none] at rests
      rw [Option.bind_some, Option.isNone_iff_eq_none]
      exact t.step?_eq_none_of_le hle rests

theorem isPrompt_polls (r : PollRun α) (source : Source α) (polls : Nat) :
    r.isPrompt source (List.replicate polls .poll) = true := by
  induction polls generalizing r with
  | zero => rfl
  | succ polls ih => exact ih _

end PollRun


-- ---------------------------------------------------------------------------
-- Tasks that rest
-- ---------------------------------------------------------------------------

namespace PollTask

variable {t : PollTask} {source : Source α} {now due : Nat}

theorem lt_due_of_rests (waits : t.phase = .waiting due) (rests : t.step? source now = none) :
    now < due := by
  by_contra hdue
  have hready : t.isReady now = true := by
    simp [isReady, waits, Nat.le_of_not_lt hdue]
  simp [step?, waits, hready] at rests

theorem lt_settle_of_rests {number since latency : Nat}
    (busy : t.phase = .retrieving number since due)
    (hlatency : (source number).latency = some latency) (rests : t.step? source now = none) :
    now < since + latency := by
  by_contra hsettled
  simp [step?, busy, hlatency, Nat.le_of_not_lt hsettled] at rests

end PollTask


-- ---------------------------------------------------------------------------
-- The scheduler is prompt
-- ---------------------------------------------------------------------------

namespace Polled

variable {p : Polled α} {now nanos d : Nat} {t : PollTask} {history : List (Nat × PollEvent α)}

theorem next?_runUntilIdle (p : Polled α) (now : Nat) : (p.runUntilIdle now).next? now = none := by
  induction p using Polled.runUntilIdle.induct now with
  | case1 p rest => rw [runUntilIdle_of_none rest, rest]
  | case2 p a next ih => rw [runUntilIdle_of_some next, ih]

theorem source_runUntilIdle (p : Polled α) (now : Nat) :
    (p.runUntilIdle now).source = p.source := by
  induction p using Polled.runUntilIdle.induct now with
  | case1 p rest => rw [runUntilIdle_of_none rest]
  | case2 p a next ih => rw [runUntilIdle_of_some next, ih]; rfl

/-- A task of an idle subscription rests until something falls due. -/
theorem rests_until_wake (ho : p.subscription.IsOrderly) (hr : p.subscription.IsRecorded history)
    (ht : t ∈ p.subscription.tasks) (idle : p.next? now = none)
    (wakes : ∀ wake ∈ p.wakeTimes now, now + nanos ≤ wake) (hd : d < nanos) :
    t.step? p.source (now + d) = none := by
  have rests := step?_of_next?_eq_none ho hr ht idle
  have hwake {wake : Nat} (h : p.wakesAt? t = some wake) (hlt : now < wake) : now + d < wake := by
    have hmem : wake ∈ p.wakeTimes now :=
      List.mem_filter.2 ⟨List.mem_filterMap.2 ⟨t, ht, h⟩, decide_eq_true hlt⟩
    exact Nat.lt_of_lt_of_le (Nat.add_lt_add_left hd now) (wakes wake hmem)
  cases hp : t.phase with
  | spawned => simp [PollTask.step?, hp, PollTask.isReady] at rests
  | waiting due =>
    have hlater := hwake (by simp [wakesAt?, hp]) (t.lt_due_of_rests hp rests)
    simp only [PollTask.step?, hp, PollTask.isReady, ite_eq_right_iff, reduceCtorEq, imp_false,
      Bool.not_eq_true, Bool.or_eq_false_iff, decide_eq_false_iff_not] at rests ⊢
    exact ⟨⟨rests.1.1, Nat.not_le.2 hlater⟩, rests.2⟩
  | retrieving number since due =>
    cases hlatency : (p.source number).latency with
    | none => simp [PollTask.step?, hp, hlatency]
    | some latency =>
      have hlater := hwake (by simp [wakesAt?, settlesAt?, hp, hlatency])
        (t.lt_settle_of_rests hp hlatency rests)
      simp [PollTask.step?, hp, hlatency, Nat.not_le.2 hlater]

/-- A prompt run that was made at `born` has led the subscription to where it stands at `now`. -/
def FollowsPrompt (p : Polled α) (now : Nat) : Prop :=
  ∃ options born script, ∃ r : PollRun α, Course p.source { options, born } script r ∧
    ({ options, born } : PollRun α).isPrompt p.source script = true ∧
    p.subscription = r.subscription ∧ r.now = now

theorem FollowsPrompt.act (h : p.FollowsPrompt now) {a : PollAction α} (owners : a.IsOwners) :
    (p.act now a).FollowsPrompt now := by
  obtain ⟨options, born, script, r, course, prompt, hs, rfl⟩ := h
  have hcourse : Course (p.act r.now a).source _ _ (r.take a) := course.obey (.call a owners)
  refine ⟨options, born, _, r.take a, hcourse, ?_, ?_, rfl⟩
  · rw [PollRun.isPrompt_append]
    exact Bool.and_eq_true_iff.2 ⟨prompt, rfl⟩
  · rw [PollRun.subscription_take, ← hs]
    rfl

theorem FollowsPrompt.runUntilIdle (h : p.FollowsPrompt now) :
    (p.runUntilIdle now).FollowsPrompt now := by
  obtain ⟨options, born, script, r, course, prompt, hs, hnow⟩ := h
  obtain ⟨polls, r', hs', hnow', hcourse⟩ := course.runUntilIdle hs hnow
  refine ⟨options, born, script ++ List.replicate (polls + 0) .poll, r', ?_, ?_, hs', hnow'⟩
  · rw [source_runUntilIdle]
    exact hcourse 0
  · rw [source_runUntilIdle, PollRun.isPrompt_append, prompt, PollRun.isPrompt_polls]
    rfl

/-- The clock moves on while the subscription is idle, up to where something falls due. -/
theorem FollowsPrompt.pass (h : p.FollowsPrompt now) (idle : p.next? now = none)
    (wakes : ∀ wake ∈ p.wakeTimes now, now + nanos ≤ wake) : p.FollowsPrompt (now + nanos) := by
  obtain ⟨options, born, script, r, course, prompt, hs, rfl⟩ := h
  have hrests : r.restsFor p.source nanos = true := by
    refine List.all_eq_true.2 fun d hd => Option.isNone_iff_eq_none.2 ?_
    cases hcurrent : r.subscription.current? with
    | none => rfl
    | some t =>
      exact rests_until_wake (hs ▸ r.isOrderly) (hs ▸ r.isRecorded)
        (hs ▸ Subscription.mem_of_current? hcurrent) idle wakes (List.mem_range.1 hd)
  refine ⟨options, born, _, r.obey p.source (.pass nanos), course.obey (.pass nanos), ?_, hs, rfl⟩
  rw [PollRun.isPrompt_append, prompt, Bool.true_and]
  simpa [PollRun.isPrompt, ← course.agrees.restsFor_eq] using hrests

end Polled

namespace PollWorld

variable {w : PollWorld α}

/-- Prompt runs have led all subscriptions to where they stand. -/
def IsPrompt (w : PollWorld α) : Prop :=
  ∀ p ∈ w.polled, p.FollowsPrompt w.now

theorem IsPrompt.subscribe (h : w.IsPrompt) (options : PollOptions) (source : Source α) :
    (w.subscribe options source).IsPrompt := by
  intro p hp
  rcases List.mem_append.1 hp with hp | hp
  · exact h p hp
  · rw [List.mem_singleton.1 hp]
    exact ⟨options, w.now, [], { options, born := w.now }, .begin, rfl, rfl, rfl⟩

theorem IsPrompt.act (h : w.IsPrompt) (number : Nat) {a : PollAction α} (owners : a.IsOwners) :
    (w.act number a).IsPrompt := by
  intro p hp
  obtain ⟨i, hi⟩ := List.mem_iff_getElem?.1 hp
  rw [PollWorld.act, PollWorld.modify, List.getElem?_modify] at hi
  obtain ⟨q, hq, rfl⟩ := Option.map_eq_some_iff.1 hi
  have hfollows := h q (List.mem_of_getElem? hq)
  split
  · exact hfollows.act owners
  · exact hfollows

theorem IsPrompt.runUntilIdle (h : w.IsPrompt) : w.runUntilIdle.IsPrompt := by
  intro p hp
  obtain ⟨q, hq, rfl⟩ := List.mem_map.1 hp
  exact (h q hq).runUntilIdle

/-- The clock moves on while all subscriptions are idle, up to where something falls due. -/
theorem IsPrompt.wait (h : w.IsPrompt) {t : Nat} (hle : w.now ≤ t)
    (idle : ∀ p ∈ w.polled, p.next? w.now = none)
    (wakes : ∀ p ∈ w.polled, ∀ wake ∈ p.wakeTimes w.now, t ≤ wake) :
    ({ w with now := t } : PollWorld α).IsPrompt := by
  intro p hp
  obtain ⟨nanos, rfl⟩ := Nat.exists_eq_add_of_le hle
  exact (h p hp).pass (idle p hp) (wakes p hp)

theorem idle_runUntilIdle (w : PollWorld α) :
    ∀ p ∈ w.runUntilIdle.polled, p.next? w.now = none := by
  intro p hp
  obtain ⟨q, _, rfl⟩ := List.mem_map.1 hp
  exact q.next?_runUntilIdle w.now

/-- However far the scheduler runs, it lets time pass promptly. -/
theorem IsPrompt.advanceTo {w : PollWorld α} (h : w.IsPrompt) {target : Nat}
    (hle : w.now ≤ target) : (w.advanceTo target).IsPrompt := by
  have hidle := h.runUntilIdle
  have hrest := w.idle_runUntilIdle
  rw [PollWorld.advanceTo]
  split
  · next hnone =>
    refine hidle.wait hle hrest fun p hp wake hwake => ?_
    have hempty := List.flatMap_eq_nil_iff.1 (List.min?_eq_none_iff.1 hnone) p hp
    rw [hempty] at hwake
    cases hwake
  · next t ht =>
    obtain ⟨hmem, hmin⟩ := List.min?_eq_some_iff.1 ht
    have hfirst : ∀ p ∈ w.runUntilIdle.polled, ∀ wake ∈ p.wakeTimes w.now, t ≤ wake :=
      fun p hp wake hwake => hmin wake (List.mem_flatMap.2 ⟨p, hp, hwake⟩)
    split
    · next inside =>
      exact (hidle.wait (Nat.le_of_lt inside.1) hrest hfirst).advanceTo inside.2
    · next outside =>
      refine hidle.wait hle hrest fun p hp wake hwake => ?_
      have hlater : w.now < t := by
        obtain ⟨q, _, hq⟩ := List.mem_flatMap.1 hmem
        exact of_decide_eq_true (List.mem_filter.1 hq).2
      have htarget : target < t := Nat.lt_of_not_le fun hle => outside ⟨hlater, hle⟩
      exact Nat.le_trans (Nat.le_of_lt htarget) (hfirst p hp wake hwake)
  termination_by target - w.now

theorem IsPrompt.advance (h : w.IsPrompt) (nanos : Nat) : (w.advance nanos).IsPrompt :=
  h.advanceTo (Nat.le_add_right _ _)

end PollWorld

end DashboardClient
