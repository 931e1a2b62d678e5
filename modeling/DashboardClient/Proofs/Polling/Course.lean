import DashboardClient.Proofs.Polling.Live

/-!
# Runs that follow a script

A run of a subscription follows a script of what happens around it: the owner takes steps, the
runtime polls the task of the current activation, time passes. Tasks whose activation is over
take their steps at any point in between, in any order, or never.

A poll that finds nothing to do changes nothing, so a script may have more polls than a run
needs, and runs that are polled at different moments can still follow one script. What the
scheduler does while the clock stands is a run of every script with enough polls.
-/

namespace DashboardClient

variable {α : Type}

-- ---------------------------------------------------------------------------
-- Runs of a script
-- ---------------------------------------------------------------------------

/-- What happens around a subscription: its owner takes a step, the runtime polls the task of
the current activation, or time passes. -/
inductive PollCommand (α : Type) where
  | call (a : PollAction α) (owners : a.IsOwners)
  | poll
  | pass (nanos : Nat)

/-- A subscription that was made at `born`, the steps that it took and the time. -/
structure PollRun (α : Type) where
  options : PollOptions
  born : Nat
  now : Nat := born
  steps : List (Nat × PollAction α) := []

namespace PollRun

def subscription (r : PollRun α) : Subscription α :=
  (Subscription.life r.options r.born r.steps).1

def history (r : PollRun α) : List (Nat × PollEvent α) :=
  (Subscription.life r.options r.born r.steps).2

/-- A step is taken now. -/
def take (r : PollRun α) (a : PollAction α) : PollRun α :=
  { r with steps := r.steps ++ [(r.now, a)] }

/-- What is done on a command. A poll of a task that has nothing to do changes nothing. -/
def obey (r : PollRun α) (source : Source α) : PollCommand α → PollRun α
  | .call a _ => r.take a
  | .poll => (r.subscription.current?.bind (·.step? source r.now)).elim r r.take
  | .pass nanos => { r with now := r.now + nanos }

/-- The run in which revoked tasks take no steps. -/
def undisturbed (r : PollRun α) (source : Source α) (script : List (PollCommand α)) : PollRun α :=
  script.foldl (·.obey source) r

/-- The run goes on, in whatever way. -/
structure IsStartOf (r whole : PollRun α) : Prop where
  options : r.options = whole.options
  born : r.born = whole.born
  steps : r.steps <+: whole.steps

end PollRun

/-- The runs from `r` that follow a script on a source. Between two commands, any task whose
activation is over may take a step. -/
inductive Course (source : Source α) (r : PollRun α) :
    List (PollCommand α) → PollRun α → Prop where
  | begin : Course source r [] r
  | obey {script : List (PollCommand α)} {r' : PollRun α} (before : Course source r script r')
    (c : PollCommand α) : Course source r (script ++ [c]) (r'.obey source c)
  | revoked {script : List (PollCommand α)} {r' : PollRun α} {t : PollTask} {a : PollAction α}
    (before : Course source r script r') (ht : t ∈ r'.subscription.tasks)
    (ended : r'.subscription.activation ≠ some t.generation)
    (step : t.step? source r'.now = some a) : Course source r script (r'.take a)

namespace PollRun

variable {r : PollRun α}

theorem isOrderly (r : PollRun α) : r.subscription.IsOrderly :=
  Subscription.isOrderly_life r.options r.born r.steps

theorem isRecorded (r : PollRun α) : r.subscription.IsRecorded r.history :=
  Subscription.isRecorded_life r.options r.born r.steps

theorem isAccounted (r : PollRun α) : r.subscription.IsAccounted r.history :=
  Subscription.isAccounted_life r.options r.born r.steps

theorem undisturbed_snoc (r : PollRun α) (source : Source α) (script : List (PollCommand α))
    (c : PollCommand α) :
    r.undisturbed source (script ++ [c]) = (r.undisturbed source script).obey source c :=
  List.foldl_append ..

theorem subscription_take (r : PollRun α) (a : PollAction α) :
    (r.take a).subscription = (r.subscription.act r.now a).1 := by
  simp [subscription, take, Subscription.life_snoc]

theorem history_take (r : PollRun α) (a : PollAction α) :
    (r.take a).history = r.history ++ (r.subscription.act r.now a).2.map (r.now, ·) := by
  simp [subscription, history, take, Subscription.life_snoc]

theorem isStartOf_self (r : PollRun α) : r.IsStartOf r :=
  ⟨rfl, rfl, List.prefix_rfl⟩

theorem isStartOf_take (r : PollRun α) (a : PollAction α) : r.IsStartOf (r.take a) :=
  ⟨rfl, rfl, List.prefix_append _ _⟩

theorem isStartOf_obey (r : PollRun α) (source : Source α) (c : PollCommand α) :
    r.IsStartOf (r.obey source c) := by
  cases c with
  | call a => exact r.isStartOf_take a
  | pass nanos => exact ⟨rfl, rfl, List.prefix_rfl⟩
  | poll =>
    unfold obey
    cases r.subscription.current?.bind (·.step? source r.now) with
    | none => exact r.isStartOf_self
    | some a => exact r.isStartOf_take a

end PollRun

theorem course_undisturbed (source : Source α) (r : PollRun α) (script : List (PollCommand α)) :
    Course source r script (r.undisturbed source script) := by
  induction script using List.reverseRecOn with
  | nil => exact .begin
  | append_singleton script c ih =>
    rw [PollRun.undisturbed_snoc]
    exact ih.obey c


-- ---------------------------------------------------------------------------
-- Runs of the scheduler
-- ---------------------------------------------------------------------------

namespace Polled

variable {p : Polled α} {now : Nat} {t : PollTask}

/-- The scheduler takes steps of tasks only. -/
theorem step_of_next? {a : PollAction α} (h : p.next? now = some a) :
    ∃ t ∈ p.subscription.tasks, t.step? p.source now = some a := by
  unfold next? at h
  split at h
  · next n hfind =>
    obtain rfl := Option.some.inj h
    have hsettles := List.find?_some hfind
    unfold settlesNow at hsettles
    split at hsettles
    · cases hsettles
    · next t ht =>
      have hn : t.retrieval? = some n := by simpa using List.find?_some ht
      obtain ⟨since, due, hp⟩ := PollTask.retrieval?_eq_some_iff.1 hn
      refine ⟨t, List.mem_of_find?_eq_some ht, ?_⟩
      simp only [settlesAt?, hp] at hsettles
      simp only [PollTask.step?, hp, hsettles, if_true]
  · obtain ⟨g, hfind, rfl⟩ := Option.map_eq_some_iff.1 h
    have hruns : p.runsNow now g = true := List.find?_some hfind
    obtain ⟨t, ht, hready⟩ := (Option.any_eq_true _ _).1 hruns
    have hg : t.generation = g := key_of_find? ht
    refine ⟨t, Subscription.mem_of_task? ht, ?_⟩
    cases hp : t.phase with
    | spawned => simp [PollTask.step?, hp, hready, hg]
    | waiting due => simp [PollTask.step?, hp, hready, hg]
    | retrieving m since due => simp [PollTask.isReady, hp] at hready

/-- The scheduler rests only when no task has a step left. -/
theorem step?_of_next?_eq_none {history : List (Nat × PollEvent α)}
    (ho : p.subscription.IsOrderly) (hr : p.subscription.IsRecorded history)
    (ht : t ∈ p.subscription.tasks) (h : p.next? now = none) : t.step? p.source now = none := by
  unfold next? at h
  split at h
  · cases h
  · next hsettles =>
    have hruns : ∀ t ∈ p.subscription.tasks, p.runsNow now t.generation = false := by
      simpa using h
    have found : p.subscription.task? t.generation = some t :=
      (find?_eq_some_iff_mem ho.distinct).2 ht
    cases hp : t.phase with
    | spawned => simpa [runsNow, found, PollTask.step?, hp] using hruns t ht
    | waiting due => simpa [runsNow, found, PollTask.step?, hp] using hruns t ht
    | retrieving n since due =>
      have hn : t.retrieval? = some n := PollTask.retrieval?_eq_some_iff.2 ⟨_, _, hp⟩
      have hlater : p.settlesNow now n = false := by
        simpa using List.find?_eq_none.1 hsettles n (List.mem_filterMap.2 ⟨t, ht, hn⟩)
      simp only [settlesNow, hr.retrieving?_eq ho ht hn, settlesAt?, hp] at hlater
      simp only [PollTask.step?, hp, hlater, Bool.false_eq_true, if_false]

theorem runUntilIdle_of_none (h : p.next? now = none) : p.runUntilIdle now = p := by
  rw [runUntilIdle]
  split
  · rfl
  · next next => cases h.symm.trans next

theorem runUntilIdle_of_some {a : PollAction α} (h : p.next? now = some a) :
    p.runUntilIdle now = (p.act now a).runUntilIdle now := by
  rw [runUntilIdle]
  split
  · next none => cases h.symm.trans none
  · next next =>
    obtain rfl := Option.some.inj (h.symm.trans next)
    rfl

end Polled

theorem Course.idle {source : Source α} {r r' : PollRun α} {script : List (PollCommand α)}
    (h : Course source r script r')
    (idle : ∀ t ∈ r'.subscription.tasks, t.step? source r'.now = none) (polls : Nat) :
    Course source r (script ++ List.replicate polls .poll) r' := by
  induction polls with
  | zero => simpa using h
  | succ polls ih =>
    have hrest : r'.obey source .poll = r' := by
      unfold PollRun.obey
      cases hc : r'.subscription.current? with
      | none => rfl
      | some t => rw [Option.bind_some, idle t (Subscription.mem_of_current? hc)]; rfl
    rw [List.replicate_succ', ← List.append_assoc]
    exact hrest ▸ ih.obey .poll

theorem Course.step {source : Source α} {r r' : PollRun α} {script : List (PollCommand α)}
    {t : PollTask} {a : PollAction α} (h : Course source r script r')
    (ht : t ∈ r'.subscription.tasks) (step : t.step? source r'.now = some a) :
    ∃ polls, Course source r (script ++ List.replicate polls .poll) (r'.take a) := by
  by_cases active : r'.subscription.activation = some t.generation
  · have hcurrent : r'.subscription.current? = some t := by
      rw [Subscription.current?, active, Option.bind_some]
      exact (find?_eq_some_iff_mem r'.isOrderly.distinct).2 ht
    refine ⟨1, ?_⟩
    have hpolled : r'.obey source .poll = r'.take a := by
      simp [PollRun.obey, hcurrent, step]
    exact hpolled ▸ h.obey .poll
  · exact ⟨0, by simpa using h.revoked ht active step⟩

/-- When the scheduler has run a subscription until it is idle, that is a course of every script
with enough polls. -/
theorem Course.runUntilIdle {r r' : PollRun α} {script : List (PollCommand α)} {p : Polled α}
    {now : Nat} (h : Course p.source r script r') (hs : p.subscription = r'.subscription)
    (hnow : r'.now = now) :
    ∃ polls r'', (p.runUntilIdle now).subscription = r''.subscription ∧ r''.now = now ∧
      ∀ more, Course p.source r (script ++ List.replicate (polls + more) .poll) r'' := by
  induction p using Polled.runUntilIdle.induct now generalizing r' script with
  | case1 p rest =>
    have hidle : ∀ t ∈ r'.subscription.tasks, t.step? p.source r'.now = none := by
      intro t ht
      rw [← hs] at ht
      exact Polled.step?_of_next?_eq_none (hs ▸ r'.isOrderly) (hs ▸ r'.isRecorded) ht (hnow ▸ rest)
    refine ⟨0, r', ?_, hnow, fun more => by simpa using h.idle hidle more⟩
    rw [Polled.runUntilIdle_of_none rest, hs]
  | case2 p a next ih =>
    obtain ⟨t, ht, step⟩ := Polled.step_of_next? next
    obtain ⟨first, hfirst⟩ := h.step (hs ▸ ht) (hnow ▸ step)
    have hact : (p.act now a).subscription = (r'.take a).subscription := by
      rw [PollRun.subscription_take, ← hs, hnow]
      rfl
    obtain ⟨polls, r'', hrest, hnow', hcourse⟩ := ih hfirst hact hnow
    refine ⟨first + polls, r'', ?_, hnow', fun more => ?_⟩
    · rw [Polled.runUntilIdle_of_some next, hrest]
    · have := hcourse more
      rwa [List.append_assoc, ← List.replicate_add, ← Nat.add_assoc] at this

end DashboardClient
