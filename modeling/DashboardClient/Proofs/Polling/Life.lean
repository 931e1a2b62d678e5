import DashboardClient.Proofs.Polling.Moves
import Mathlib.Data.List.Induction

/-!
# The life of a subscription

A life starts when a subscription is made and goes on with any steps of the owner and of
the tasks, in any order and at any times. The main statement of this file is the
induction over lives: what moves keep holds in every life. It hands each move an orderly
subscription, one whose tasks belong to distinct activations and whose current activation,
if there is one, is the newest and is the only one that was not told to stop.
-/

namespace DashboardClient

namespace Subscription

variable {α : Type}

/-- All that happens from the making of a subscription at `born` to the last of the steps. -/
def life (options : PollOptions) (born : Nat) (actions : List (Nat × PollAction α)) :
    Subscription α × List (Nat × PollEvent α) :=
  let (s, events) := new options
  let (s', later) := s.run actions
  (s', events.map (born, ·) ++ later)

theorem run_append (s : Subscription α) (first rest : List (Nat × PollAction α)) :
    s.run (first ++ rest) =
      (((s.run first).1.run rest).1, (s.run first).2 ++ ((s.run first).1.run rest).2) := by
  induction first generalizing s with
  | nil => rfl
  | cons a first ih => simp [run, ih, List.append_assoc]

theorem life_append (options : PollOptions) (born : Nat)
    (first rest : List (Nat × PollAction α)) :
    life options born (first ++ rest) =
      (((life options born first).1.run rest).1,
       (life options born first).2 ++ ((life options born first).1.run rest).2) := by
  simp [life, run_append, List.append_assoc]

/-- A life goes on by one step. -/
theorem life_snoc (options : PollOptions) (born now : Nat)
    (actions : List (Nat × PollAction α)) (a : PollAction α) :
    life options born (actions ++ [(now, a)]) =
      (((life options born actions).1.act now a).1,
       (life options born actions).2 ++
        ((life options born actions).1.act now a).2.map (now, ·)) := by
  simp [life_append, run]


-- ---------------------------------------------------------------------------
-- Orderly subscriptions
-- ---------------------------------------------------------------------------

/-- Nothing has happened to the subscription yet. -/
structure IsBlank (s : Subscription α) : Prop where
  watched : s.watched = { value := {} }
  activation : s.activation = none
  tasks : s.tasks = []
  started : s.started = 0

/-- Tasks stand in the order of their activations. The current activation has the
generation of the snapshot and a task; its task is the only one that may go on. -/
structure IsOrderly (s : Subscription α) : Prop where
  ordered : (s.tasks.map (·.generation)).Pairwise (· < ·)
  bounded : ∀ t ∈ s.tasks, t.generation ≤ s.generation
  newest : ∀ g, s.activation = some g → g = s.generation
  attended : ∀ g, s.activation = some g → ∃ t ∈ s.tasks, t.generation = g
  current : ∀ t ∈ s.tasks, t.generation = s.generation → s.activation = some t.generation
  stopped : ∀ t ∈ s.tasks, t.stopRequested = true ↔ s.activation ≠ some t.generation

theorem IsOrderly.distinct {s : Subscription α} (h : s.IsOrderly) : s.HasDistinctTasks :=
  h.ordered.imp fun hlt => Nat.ne_of_lt hlt

theorem IsBlank.isOrderly {s : Subscription α} (h : s.IsBlank) : s.IsOrderly := by
  obtain ⟨_, ha, ht, _⟩ := h
  constructor <;> simp [ha, ht]

/-- The tasks after one task was put in its own place or taken out. -/
theorem IsOrderly.mem_put {s : Subscription α} (h : s.IsOrderly) {t : PollTask}
    (found : s.task? t.generation = some t) {t' : Option PollTask}
    (hg : ∀ x ∈ t', x.generation = t.generation) {u : PollTask} :
    u ∈ (s.put t.generation t').tasks ↔
      u ∈ t' ∨ (u ∈ s.tasks ∧ u.generation ≠ t.generation) :=
  mem_replaceFirst_iff hg h.distinct found

theorem mem_of_task? {s : Subscription α} {g : Nat} {t : PollTask} (h : s.task? g = some t) :
    t ∈ s.tasks :=
  List.mem_of_find?_eq_some h


-- ---------------------------------------------------------------------------
-- Moves keep subscriptions orderly
-- ---------------------------------------------------------------------------

theorem IsOrderly.congr {s s' : Subscription α} (h : s.IsOrderly) (ht : s'.tasks = s.tasks)
    (ha : s'.activation = s.activation) (hg : s'.generation = s.generation) :
    s'.IsOrderly := by
  constructor
  case ordered =>
    rw [ht]
    exact h.ordered
  case bounded =>
    rw [ht, hg]
    exact h.bounded
  case newest =>
    rw [ha, hg]
    exact h.newest
  case attended =>
    rw [ht, ha]
    exact h.attended
  case current =>
    rw [ht, ha, hg]
    exact h.current
  case stopped =>
    rw [ht, ha]
    exact h.stopped

/-- A task changes, but neither its activation nor whether it was told to stop. -/
theorem IsOrderly.replace {s : Subscription α} (h : s.IsOrderly) {t t' : PollTask}
    (found : s.task? t.generation = some t) (hg : t'.generation = t.generation)
    (hs : t'.stopRequested = t.stopRequested) :
    (s.put t.generation (some t')).IsOrderly := by
  have hmem : ∀ {u}, u ∈ (s.put t.generation (some t')).tasks ↔
      u = t' ∨ (u ∈ s.tasks ∧ u.generation ≠ t.generation) := by
    intro u
    have hkey : ∀ x ∈ some t', x.generation = t.generation := by simpa using hg
    simpa [eq_comm] using h.mem_put found hkey (u := u)
  have ht : t ∈ s.tasks := mem_of_task? found
  constructor
  case ordered =>
    show ((replaceFirst _ _ _).map _).Pairwise _
    rw [map_key_replaceFirst hg]
    exact h.ordered
  case bounded =>
    intro u hu
    rcases hmem.1 hu with rfl | ⟨hu, _⟩
    · rw [hg]; exact h.bounded t ht
    · exact h.bounded u hu
  case newest =>
    exact h.newest
  case attended =>
    intro g ha
    obtain ⟨u, hu, rfl⟩ := h.attended g ha
    by_cases hne : u.generation = t.generation
    · exact ⟨t', hmem.2 (Or.inl rfl), hg.trans hne.symm⟩
    · exact ⟨u, hmem.2 (Or.inr ⟨hu, hne⟩), rfl⟩
  case current =>
    intro u hu heq
    rcases hmem.1 hu with rfl | ⟨hu, _⟩
    · rw [hg] at heq ⊢; exact h.current t ht heq
    · exact h.current u hu heq
  case stopped =>
    intro u hu
    rcases hmem.1 hu with rfl | ⟨hu, _⟩
    · rw [hg, hs]; exact h.stopped t ht
    · exact h.stopped u hu

/-- A task that is not that of the current activation ends. -/
theorem IsOrderly.remove {s : Subscription α} (h : s.IsOrderly) {t : PollTask}
    (found : s.task? t.generation = some t) (hne : s.activation ≠ some t.generation) :
    (s.put t.generation none).IsOrderly := by
  have hmem : ∀ {u}, u ∈ (s.put t.generation none).tasks ↔
      u ∈ s.tasks ∧ u.generation ≠ t.generation := by
    intro u
    have hkey : ∀ x ∈ (none : Option PollTask), x.generation = t.generation := by simp
    simpa using h.mem_put found hkey (u := u)
  constructor
  case ordered =>
    exact h.ordered.sublist ((replaceFirst_none_sublist _).map _)
  case bounded =>
    intro u hu
    exact h.bounded u (hmem.1 hu).1
  case newest =>
    exact h.newest
  case attended =>
    intro g ha
    obtain ⟨u, hu, rfl⟩ := h.attended g ha
    exact ⟨u, hmem.2 ⟨hu, fun he => hne (he ▸ ha)⟩, rfl⟩
  case current =>
    intro u hu
    exact h.current u (hmem.1 hu).1
  case stopped =>
    intro u hu
    exact h.stopped u (hmem.1 hu).1

theorem tasks_activate (s : Subscription α) :
    s.activate.1.tasks = s.tasks ++ [{ generation := s.generation + 1 }] := rfl

theorem generation_activate (s : Subscription α) :
    s.activate.1.generation = s.generation + 1 := rfl

theorem IsOrderly.activate {s : Subscription α} (h : s.IsOrderly)
    (inactive : s.activation = none) : s.activate.1.IsOrderly := by
  have hmem : ∀ {u}, u ∈ s.activate.1.tasks ↔
      u ∈ s.tasks ∨ u = { generation := s.generation + 1 } := by
    simp [tasks_activate]
  have hgen := generation_activate s
  constructor
  case ordered =>
    rw [tasks_activate, List.map_append, List.pairwise_append]
    refine ⟨h.ordered, List.pairwise_singleton _ _, ?_⟩
    intro g hg g' hg'
    obtain ⟨t, ht, rfl⟩ := List.mem_map.1 hg
    have hle := h.bounded t ht
    have hnew : g' = s.generation + 1 := by simpa using hg'
    omega
  case bounded =>
    intro u hu
    rcases hmem.1 hu with hu | rfl
    · exact hgen ▸ Nat.le_succ_of_le (h.bounded u hu)
    · exact Nat.le_refl _
  case newest =>
    intro g hg
    exact (Option.some.inj hg).symm
  case attended =>
    intro g hg
    exact ⟨{ generation := s.generation + 1 }, hmem.2 (Or.inr rfl), Option.some.inj hg⟩
  case current =>
    intro u _ hu
    rw [activation_activate, hu, hgen]
  case stopped =>
    intro u hu
    rw [activation_activate]
    rcases hmem.1 hu with hu | rfl
    · have hle := h.bounded u hu
      have hstop : u.stopRequested = true := (h.stopped u hu).2 (by simp [inactive])
      simp only [hstop, ne_eq, Option.some.injEq, true_iff]
      omega
    · simp

theorem tasks_deactivate {s : Subscription α} {g : Nat} (active : s.activation = some g) :
    s.deactivate.1.tasks =
      s.tasks.map fun t => if t.generation = g then { t with stopRequested := true } else t := by
  simp [Subscription.deactivate, active]

theorem generation_deactivate {s : Subscription α} {g : Nat} (active : s.activation = some g) :
    s.deactivate.1.generation = s.generation + 1 := by
  simp [Subscription.deactivate, active, Watched.modify, Watched.write, Snapshot.deactivate,
    Subscription.generation, snapshot]

theorem IsOrderly.deactivate {s : Subscription α} (h : s.IsOrderly) {g : Nat}
    (active : s.activation = some g) : s.deactivate.1.IsOrderly := by
  have htasks := tasks_deactivate active
  have hgen := generation_deactivate active
  have hsame : s.deactivate.1.tasks.map (·.generation) = s.tasks.map (·.generation) := by
    rw [htasks, List.map_map]
    refine List.map_congr_left fun t _ => ?_
    simp only [Function.comp]
    split <;> rfl
  have hbelow : ∀ u ∈ s.deactivate.1.tasks, u.generation < s.deactivate.1.generation := by
    intro u hu
    have : u.generation ∈ s.tasks.map (·.generation) := hsame ▸ List.mem_map_of_mem hu
    obtain ⟨t, ht, htu⟩ := List.mem_map.1 this
    have := h.bounded t ht
    omega
  constructor
  case ordered =>
    rw [hsame]
    exact h.ordered
  case bounded =>
    intro u hu
    exact Nat.le_of_lt (hbelow u hu)
  case newest =>
    simp [activation_deactivate]
  case attended =>
    simp [activation_deactivate]
  case current =>
    intro u hu heq
    exact absurd heq (Nat.ne_of_lt (hbelow u hu))
  case stopped =>
    intro u hu
    rw [htasks] at hu
    obtain ⟨t, ht, rfl⟩ := List.mem_map.1 hu
    simp only [activation_deactivate, ne_eq, reduceCtorEq, not_false_eq_true, iff_true]
    split
    · rfl
    · next hne =>
      refine (h.stopped t ht).2 ?_
      rw [active]
      simpa using Ne.symm hne

@[simp] theorem request_generation (t : PollTask) : t.request.generation = t.generation := by
  unfold PollTask.request
  split <;> rfl

@[simp] theorem request_phase (t : PollTask) : t.request.phase = t.phase := by
  unfold PollTask.request
  split <;> rfl

@[simp] theorem request_stopRequested (t : PollTask) :
    t.request.stopRequested = t.stopRequested := by
  unfold PollTask.request
  split <;> rfl

theorem tasks_refresh {s : Subscription α} {g : Nat} (active : s.activation = some g) :
    s.refresh.tasks = s.tasks.map fun t => if t.generation = g then t.request else t := by
  simp [Subscription.refresh, active]

theorem IsOrderly.refresh {s : Subscription α} (h : s.IsOrderly) {g : Nat}
    (active : s.activation = some g) : s.refresh.IsOrderly := by
  have hframe : s.refresh.activation = s.activation ∧ s.refresh.generation = s.generation := by
    simp [Subscription.refresh, active, Subscription.generation, snapshot]
  have hback : ∀ u ∈ s.refresh.tasks, ∃ t ∈ s.tasks,
      t.generation = u.generation ∧ t.stopRequested = u.stopRequested := by
    intro u hu
    rw [tasks_refresh active] at hu
    obtain ⟨t, ht, rfl⟩ := List.mem_map.1 hu
    refine ⟨t, ht, ?_⟩
    split <;> simp
  have hsame : s.refresh.tasks.map (·.generation) = s.tasks.map (·.generation) := by
    rw [tasks_refresh active, List.map_map]
    refine List.map_congr_left fun t _ => ?_
    simp only [Function.comp]
    split <;> simp
  constructor
  case ordered =>
    rw [hsame]
    exact h.ordered
  case bounded =>
    intro u hu
    obtain ⟨t, ht, hg, _⟩ := hback u hu
    rw [hframe.2, ← hg]
    exact h.bounded t ht
  case newest =>
    rw [hframe.1, hframe.2]
    exact h.newest
  case attended =>
    intro g' ha
    rw [hframe.1] at ha
    obtain ⟨t, ht, rfl⟩ := h.attended g' ha
    have : t.generation ∈ s.refresh.tasks.map (·.generation) := hsame ▸ List.mem_map_of_mem ht
    simpa using this
  case current =>
    intro u hu
    obtain ⟨t, ht, hg, _⟩ := hback u hu
    rw [hframe.1, hframe.2, ← hg]
    exact h.current t ht
  case stopped =>
    intro u hu
    obtain ⟨t, ht, hg, hs⟩ := hback u hu
    rw [hframe.1, ← hg, ← hs]
    exact h.stopped t ht

theorem IsOrderly.ne_of_over {s : Subscription α} (h : s.IsOrderly) {t : PollTask}
    (ht : t ∈ s.tasks) (ended : t.stopRequested = true ∨ s.generation ≠ t.generation) :
    s.activation ≠ some t.generation := by
  rcases ended with hs | hg
  · exact (h.stopped t ht).1 hs
  · exact fun ha => hg (h.newest _ ha).symm

theorem Move.isOrderly {now : Nat} {s s' : Subscription α} {es : List (PollEvent α)}
    (hm : Move now s s' es) (h : s.IsOrderly) : s'.IsOrderly := by
  cases hm with
  | settings => exact h.congr rfl rfl rfl
  | activate inactive => exact h.activate inactive
  | deactivate active => exact h.deactivate active
  | refresh active => exact h.refresh active
  | leave found _ ended => exact h.remove found (h.ne_of_over (mem_of_task? found) ended)
  | wait found => exact h.replace found rfl rfl
  | start found =>
    have hcounted : s.countStart.IsOrderly := h.congr rfl rfl rfl
    exact hcounted.replace found rfl rfl
  | @apply t _ _ _ outcome found _ _ =>
    have happlied : (s.applyOutcome t now outcome).IsOrderly :=
      h.congr rfl rfl (applyOutcome_generation s t now outcome)
    exact happlied.replace found rfl rfl
  | discard found _ stale => exact h.remove found (h.ne_of_over (mem_of_task? found) (Or.inr stale))


-- ---------------------------------------------------------------------------
-- Induction over lives
-- ---------------------------------------------------------------------------

theorem Moves.induct {now : Nat} {P : Subscription α → List (Nat × PollEvent α) → Prop}
    (move : ∀ {s s' : Subscription α} {es : List (PollEvent α)} {h : List (Nat × PollEvent α)},
      s.IsOrderly → P s h → Move now s s' es → P s' (h ++ es.map (now, ·)))
    {s s' : Subscription α} {es : List (PollEvent α)}
    {h : List (Nat × PollEvent α)} (hm : Moves now s s' es) (ho : s.IsOrderly) (hP : P s h) :
    s'.IsOrderly ∧ P s' (h ++ es.map (now, ·)) := by
  induction hm generalizing h with
  | refl s => exact ⟨ho, by simpa using hP⟩
  | cons first _ ih =>
    have := ih (first.isOrderly ho) (move ho hP first)
    simpa [List.append_assoc] using this

/-- A new subscription is a blank one that may have made a move. -/
theorem new_moves (options : PollOptions) (born : Nat) :
    ∃ blank : Subscription α, blank.IsBlank ∧
      Moves born blank (new options).1 (new options).2 := by
  refine ⟨{ interval := options.interval, enabled := options.enabled,
            resyncKey := options.resyncKey }, ⟨rfl, rfl, rfl, rfl⟩, ?_⟩
  unfold new
  simp only
  split
  · exact .single (.activate rfl)
  · exact .refl _

/-- What holds of a subscription to which nothing has happened, and is kept by every move of
an orderly subscription, holds in every life. -/
theorem life_induct {P : Subscription α → List (Nat × PollEvent α) → Prop}
    (blank : ∀ {s : Subscription α}, s.IsBlank → P s [])
    (move : ∀ {s s' : Subscription α} {now : Nat} {es : List (PollEvent α)}
      {h : List (Nat × PollEvent α)},
      s.IsOrderly → P s h → Move now s s' es → P s' (h ++ es.map (now, ·)))
    (options : PollOptions) (born : Nat) (actions : List (Nat × PollAction α)) :
    P (life options born actions).1 (life options born actions).2 := by
  have hinv : (life options born actions).1.IsBookkept ∧
      (life options born actions).1.IsOrderly ∧
      P (life options born actions).1 (life options born actions).2 := by
    induction actions using List.reverseRecOn with
    | nil =>
      obtain ⟨s, hs, hm⟩ := new_moves (α := α) options born
      have := hm.induct (fun ho hP h => move ho hP h) hs.isOrderly (blank hs)
      exact ⟨isBookkept_new options, by simpa [life, run] using this⟩
    | append_singleton actions a ih =>
      obtain ⟨hb, ho, hP⟩ := ih
      rw [life_snoc]
      have hm := moves_act hb ho.distinct a.1 a.2
      exact ⟨hb.act a.1 a.2, hm.induct (fun ho hP h => move ho hP h) ho hP⟩
  exact hinv.2.2

theorem isBookkept_life (options : PollOptions) (born : Nat)
    (actions : List (Nat × PollAction α)) : (life options born actions).1.IsBookkept := by
  induction actions using List.reverseRecOn with
  | nil => exact isBookkept_new options
  | append_singleton actions a ih =>
    rw [life_snoc]
    exact ih.act a.1 a.2

theorem isOrderly_life (options : PollOptions) (born : Nat)
    (actions : List (Nat × PollAction α)) : (life options born actions).1.IsOrderly :=
  life_induct (P := fun s _ => s.IsOrderly) IsBlank.isOrderly
    (fun _ ho hm => hm.isOrderly ho) options born actions

theorem Moves.generation_le {now : Nat} {s s' : Subscription α} {es : List (PollEvent α)}
    (h : Moves now s s' es) : s.generation ≤ s'.generation := by
  induction h with
  | refl s => exact Nat.le_refl _
  | cons first _ ih =>
    refine Nat.le_trans ?_ ih
    cases first with
    | activate => exact Nat.le_succ _
    | deactivate active => rw [generation_deactivate active]; exact Nat.le_succ _
    | refresh active => simp [refresh, active, generation, snapshot]
    | apply => simp
    | _ => exact Nat.le_refl _

theorem generation_life_le (options : PollOptions) (born : Nat)
    (before after : List (Nat × PollAction α)) :
    (life options born before).1.generation ≤
      (life options born (before ++ after)).1.generation := by
  induction after using List.reverseRecOn with
  | nil => simp
  | append_singleton after a ih =>
    rw [← List.append_assoc, life_snoc]
    exact Nat.le_trans ih (moves_act (isBookkept_life options born _)
      (isOrderly_life options born _).distinct a.1 a.2).generation_le

end Subscription

end DashboardClient
