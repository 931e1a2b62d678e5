import DashboardClient.Proofs.Polling.Life
import Mathlib.Data.List.Nodup

/-!
# Single flight and issue order

Retrievals are numbered as they start, over the whole life of a subscription. An activation
never has two of them in flight, only the current activation starts any, and outcomes reach
the snapshot in the order of the numbers, also when old activations still have retrievals
that settle late.

The invariant ties what the history says to the tasks: the retrievals that started and did
not settle are exactly those that tasks are inside of, and the one of the current activation
is newer than every outcome applied so far.
-/

namespace DashboardClient

variable {α : Type}

-- ---------------------------------------------------------------------------
-- What a history says about retrievals
-- ---------------------------------------------------------------------------

namespace PollEvent

/-- The number of the retrieval that an event is about. -/
def number? : PollEvent α → Option Nat
  | .started number _ _ => some number
  | .succeeded number _ _ => some number
  | .failed number _ _ _ => some number
  | .discarded number _ => some number
  | _ => none

/-- The number and the activation of the retrieval that starts. -/
def started? : PollEvent α → Option (Nat × Nat)
  | .started number generation _ => some (number, generation)
  | _ => none

/-- The number of the retrieval whose outcome is applied. -/
def applied? : PollEvent α → Option Nat
  | .succeeded number _ _ => some number
  | .failed number _ _ _ => some number
  | _ => none

/-- The number of the retrieval that settles. -/
def settled? : PollEvent α → Option Nat
  | .discarded number _ => some number
  | e => e.applied?

theorem settled?_of_applied? {e : PollEvent α} {n : Nat} (h : e.applied? = some n) :
    e.settled? = some n := by
  cases e with
  | succeeded | failed => exact h
  | _ => cases h

theorem started?_eq_none {e : PollEvent α} (h : e.number? = none) : e.started? = none := by
  cases e with
  | started => cases h
  | _ => rfl

theorem settled?_eq_none {e : PollEvent α} (h : e.number? = none) : e.settled? = none := by
  cases e with
  | succeeded | failed | discarded => cases h
  | _ => rfl

theorem applied?_eq_none {e : PollEvent α} (h : e.number? = none) : e.applied? = none := by
  cases e with
  | succeeded | failed => cases h
  | _ => rfl

end PollEvent

/-- The steps that the owner of a subscription takes. -/
def PollAction.IsOwners : PollAction α → Prop
  | .turn _ => False
  | .settle _ _ => False
  | _ => True

namespace Subscription

/-- The retrievals that were started, each with its activation, in the order of their starts. -/
def startsIn (history : List (Nat × PollEvent α)) : List (Nat × Nat) :=
  history.filterMap (·.2.started?)

/-- The retrievals whose outcomes were applied, in the order of application. -/
def appliedIn (history : List (Nat × PollEvent α)) : List Nat :=
  history.filterMap (·.2.applied?)

/-- The retrievals that settled. -/
def settledIn (history : List (Nat × PollEvent α)) : List Nat :=
  history.filterMap (·.2.settled?)

/-- A retrieval of an activation has started and has not settled. -/
def InFlight (history : List (Nat × PollEvent α)) (number generation : Nat) : Prop :=
  (number, generation) ∈ startsIn history ∧ number ∉ settledIn history

theorem appliedIn_subset_settledIn (history : List (Nat × PollEvent α)) :
    appliedIn history ⊆ settledIn history := by
  intro n hn
  obtain ⟨e, he, hen⟩ := List.mem_filterMap.1 hn
  exact List.mem_filterMap.2 ⟨e, he, PollEvent.settled?_of_applied? hen⟩

/-- None of the events is about a retrieval. -/
def AreQuiet (es : List (PollEvent α)) : Prop :=
  ∀ e ∈ es, e.number? = none

theorem areQuiet_nil : AreQuiet ([] : List (PollEvent α)) :=
  fun _ he => absurd he List.not_mem_nil

theorem areQuiet_activate (s : Subscription α) : AreQuiet s.activate.2 := by
  simp [AreQuiet, activate, PollEvent.number?]

theorem areQuiet_deactivate (s : Subscription α) : AreQuiet s.deactivate.2 := by
  unfold deactivate
  split
  · exact areQuiet_nil
  · simp [AreQuiet, PollEvent.number?]

theorem filterMap_quiet {β : Type} {f : PollEvent α → Option β} {es : List (PollEvent α)}
    (h : ∀ e ∈ es, f e = none) (now : Nat) (history : List (Nat × PollEvent α)) :
    (history ++ es.map (now, ·)).filterMap (fun e => f e.2) =
      history.filterMap (fun e => f e.2) := by
  have hnil : (es.map (now, ·)).filterMap (fun e => f e.2) = [] := by
    simpa [List.filterMap_eq_nil_iff] using h
  rw [List.filterMap_append, hnil, List.append_nil]


-- ---------------------------------------------------------------------------
-- The invariant
-- ---------------------------------------------------------------------------

/-- The history of a subscription and its tasks agree on the retrievals. -/
structure IsRecorded (s : Subscription α) (history : List (Nat × PollEvent α)) : Prop where
  numbers : (startsIn history).map (·.1) = List.range' 1 s.started
  inFlight : ∀ n g, InFlight history n g ↔
    ∃ t ∈ s.tasks, t.retrieval? = some n ∧ t.generation = g
  settled : ∀ n ∈ settledIn history, n ≤ s.started
  inOrder : (appliedIn history).Pairwise (· < ·)
  later : ∀ t ∈ s.tasks, t.generation = s.generation → ∀ n, t.retrieval? = some n →
    ∀ m ∈ appliedIn history, m < n
  begun : ∀ p ∈ startsIn history, p.2 ≤ s.generation
  unborn : ∀ t ∈ s.tasks, t.phase = .spawned → ∀ n, (n, t.generation) ∉ startsIn history

theorem IsBlank.isRecorded {s : Subscription α} (h : s.IsBlank) : s.IsRecorded [] := by
  obtain ⟨_, _, ht, hs⟩ := h
  constructor <;> simp [startsIn, settledIn, appliedIn, InFlight, ht, hs]

/-- A retrieval number belongs to one activation. -/
theorem IsRecorded.unique {s : Subscription α} {history : List (Nat × PollEvent α)}
    (h : s.IsRecorded history) {n g g' : Nat} (hg : (n, g) ∈ startsIn history)
    (hg' : (n, g') ∈ startsIn history) : g = g' := by
  have hnodup : ((startsIn history).map (·.1)).Nodup := h.numbers ▸ List.nodup_range'
  have := List.inj_on_of_nodup_map hnodup hg hg' rfl
  exact congrArg Prod.snd this

theorem IsRecorded.le_started {s : Subscription α} {history : List (Nat × PollEvent α)}
    (h : s.IsRecorded history) {n g : Nat} (hn : (n, g) ∈ startsIn history) :
    n ≤ s.started := by
  have : n ∈ (startsIn history).map (·.1) := List.mem_map_of_mem (f := (·.1)) hn
  rw [h.numbers, List.mem_range'_1] at this
  omega


-- ---------------------------------------------------------------------------
-- Moves that neither start nor settle a retrieval
-- ---------------------------------------------------------------------------

/-- From `s` to `s'` no retrieval starts or settles: tasks inside retrievals stay there, and
the others wait, go or belong to a new activation. -/
structure IsQuietChange (s s' : Subscription α) : Prop where
  started : s'.started = s.started
  generation : s.generation ≤ s'.generation
  kept : ∀ t ∈ s.tasks, ∀ n, t.retrieval? = some n →
    ∃ t' ∈ s'.tasks, t'.generation = t.generation ∧ t'.phase = t.phase
  origin : ∀ t' ∈ s'.tasks,
    (t'.phase = .spawned ∧ s.generation < t'.generation) ∨ (∃ due, t'.phase = .waiting due) ∨
      ∃ t ∈ s.tasks, t.generation = t'.generation ∧ t.phase = t'.phase

theorem retrieval?_congr {t t' : PollTask} (h : t'.phase = t.phase) :
    t'.retrieval? = t.retrieval? := by
  simp [PollTask.retrieval?, h]

theorem IsQuietChange.of_retrieving {s s' : Subscription α} (q : IsQuietChange s s')
    {t' : PollTask} (ht : t' ∈ s'.tasks) {n : Nat} (hr : t'.retrieval? = some n) :
    ∃ t ∈ s.tasks, t.generation = t'.generation ∧ t.retrieval? = some n := by
  rcases q.origin t' ht with ⟨hp, _⟩ | ⟨due, hp⟩ | ⟨t, ht, hg, hp⟩
  · simp [PollTask.retrieval?, hp] at hr
  · simp [PollTask.retrieval?, hp] at hr
  · exact ⟨t, ht, hg, (retrieval?_congr hp).trans hr⟩

theorem IsRecorded.quiet {s s' : Subscription α} {history : List (Nat × PollEvent α)}
    {now : Nat} {es : List (PollEvent α)} (h : s.IsRecorded history) (ho : s.IsOrderly)
    (q : IsQuietChange s s') (he : AreQuiet es) :
    s'.IsRecorded (history ++ es.map (now, ·)) := by
  have hstarts : startsIn (history ++ es.map (now, ·)) = startsIn history :=
    filterMap_quiet (fun e hm => PollEvent.started?_eq_none (he e hm)) now history
  have hsettled : settledIn (history ++ es.map (now, ·)) = settledIn history :=
    filterMap_quiet (fun e hm => PollEvent.settled?_eq_none (he e hm)) now history
  have happlied : appliedIn (history ++ es.map (now, ·)) = appliedIn history :=
    filterMap_quiet (fun e hm => PollEvent.applied?_eq_none (he e hm)) now history
  constructor
  case numbers =>
    rw [hstarts, q.started]
    exact h.numbers
  case inFlight =>
    intro n g
    have := h.inFlight n g
    simp only [InFlight, hstarts, hsettled] at this ⊢
    rw [this]
    constructor
    · rintro ⟨t, ht, hr, rfl⟩
      obtain ⟨t', ht', hg, hp⟩ := q.kept t ht n hr
      exact ⟨t', ht', (retrieval?_congr hp).trans hr, hg⟩
    · rintro ⟨t', ht', hr, rfl⟩
      obtain ⟨t, ht, hg, hr⟩ := q.of_retrieving ht' hr
      exact ⟨t, ht, hr, hg⟩
  case settled =>
    rw [hsettled, q.started]
    exact h.settled
  case inOrder =>
    rw [happlied]
    exact h.inOrder
  case later =>
    intro t' ht' hcur n hr
    obtain ⟨t, ht, hg, hr⟩ := q.of_retrieving ht' hr
    have hle := ho.bounded t ht
    have hmono := q.generation
    rw [happlied]
    exact h.later t ht (by omega) n hr
  case begun =>
    rw [hstarts]
    exact fun p hp => Nat.le_trans (h.begun p hp) q.generation
  case unborn =>
    intro t' ht' hp n
    rw [hstarts]
    rcases q.origin t' ht' with ⟨_, hlt⟩ | ⟨due, hw⟩ | ⟨t, ht, hg, hpt⟩
    · intro hn
      have := h.begun _ hn
      simp only at this
      omega
    · simp [hp] at hw
    · rw [← hg]
      exact h.unborn t ht (hpt.trans hp) n

/-- A task that is not inside a retrieval starts to wait or ends. -/
theorem IsQuietChange.put {s : Subscription α} (ho : s.IsOrderly) {t : PollTask}
    (found : s.task? t.generation = some t) (hn : t.retrieval? = none) {t' : Option PollTask}
    (hw : ∀ x ∈ t', x.generation = t.generation ∧ ∃ due, x.phase = .waiting due) :
    IsQuietChange s (s.put t.generation t') := by
  have hmem : ∀ {u}, u ∈ (s.put t.generation t').tasks ↔
      u ∈ t' ∨ (u ∈ s.tasks ∧ u.generation ≠ t.generation) :=
    ho.mem_put found fun x hx => (hw x hx).1
  refine ⟨rfl, Nat.le_refl _, ?_, ?_⟩
  · intro u hu n hr
    have hne : u.generation ≠ t.generation := by
      intro heq
      have : some u = some t :=
        ((find?_eq_some_iff_mem ho.distinct).2 hu).symm.trans (heq ▸ found)
      cases this
      simp [hn] at hr
    exact ⟨u, hmem.2 (Or.inr ⟨hu, hne⟩), rfl, rfl⟩
  · intro u hu
    rcases hmem.1 hu with hu | ⟨hu, _⟩
    · exact Or.inr (Or.inl (hw u hu).2)
    · exact Or.inr (Or.inr ⟨u, hu, rfl, rfl⟩)

/-- Every task changes in something else than its activation and its phase. -/
theorem IsQuietChange.map {s s' : Subscription α} {f : PollTask → PollTask}
    (hs : s'.started = s.started) (hg : s.generation ≤ s'.generation)
    (ht : s'.tasks = s.tasks.map f)
    (hf : ∀ t, (f t).generation = t.generation ∧ (f t).phase = t.phase) :
    IsQuietChange s s' := by
  refine ⟨hs, hg, ?_, ?_⟩
  · intro t hm _ _
    exact ⟨f t, by rw [ht]; exact List.mem_map_of_mem hm, hf t⟩
  · intro t' ht'
    rw [ht] at ht'
    obtain ⟨t, hm, rfl⟩ := List.mem_map.1 ht'
    exact Or.inr (Or.inr ⟨t, hm, (hf t).1.symm, (hf t).2.symm⟩)


-- ---------------------------------------------------------------------------
-- Moves that start or settle a retrieval
-- ---------------------------------------------------------------------------

theorem retrieval?_of_due? {t : PollTask} {now due : Nat} (h : t.due? now = some due) :
    t.retrieval? = none := by
  unfold PollTask.due? at h
  unfold PollTask.retrieval?
  split at h
  · next hp => simp [hp]
  · next hp => simp [hp]
  · cases h

theorem IsOrderly.eq_of_generation_eq {s : Subscription α} (h : s.IsOrderly) {t u : PollTask}
    (ht : t ∈ s.tasks) (hu : u ∈ s.tasks) (hg : u.generation = t.generation) : u = t := by
  have hfind := (find?_eq_some_iff_mem h.distinct).2 hu
  rw [hg, (find?_eq_some_iff_mem h.distinct).2 ht] at hfind
  exact (Option.some.inj hfind).symm

theorem IsRecorded.start {s : Subscription α} {history : List (Nat × PollEvent α)}
    (h : s.IsRecorded history) (ho : s.IsOrderly) {t t' : PollTask} {now : Nat}
    {trigger : PollTrigger} (found : s.task? t.generation = some t)
    (idle : t.retrieval? = none) (current : s.generation = t.generation)
    (hg : t'.generation = t.generation) (hr : t'.retrieval? = some (s.started + 1)) :
    (s.countStart.put t.generation (some t')).IsRecorded
      (history ++ [.started (s.started + 1) t.generation trigger].map (now, ·)) := by
  have ht : t ∈ s.tasks := mem_of_task? found
  have hmem : ∀ {u}, u ∈ (s.countStart.put t.generation (some t')).tasks ↔
      u = t' ∨ (u ∈ s.tasks ∧ u.generation ≠ t.generation) := by
    intro u
    have hkey : ∀ x ∈ some t', x.generation = t.generation := by simpa using hg
    show u ∈ (s.put t.generation (some t')).tasks ↔ _
    simpa [eq_comm] using ho.mem_put found hkey (u := u)
  have hstarts : startsIn (history ++ [PollEvent.started (α := α) (s.started + 1) t.generation
      trigger].map (now, ·)) = startsIn history ++ [(s.started + 1, t.generation)] := by
    simp [startsIn, PollEvent.started?]
  have hsettled : settledIn (history ++ [PollEvent.started (α := α) (s.started + 1) t.generation
      trigger].map (now, ·)) = settledIn history := by
    simp [settledIn, PollEvent.settled?, PollEvent.applied?]
  have happlied : appliedIn (history ++ [PollEvent.started (α := α) (s.started + 1) t.generation
      trigger].map (now, ·)) = appliedIn history := by
    simp [appliedIn, PollEvent.applied?]
  constructor
  case numbers =>
    rw [hstarts, List.map_append, h.numbers]
    simp [put, countStart, List.range'_1_concat, Nat.add_comm]
  case inFlight =>
    intro n g
    simp only [InFlight, hstarts, hsettled, List.mem_append, List.mem_singleton,
      Prod.mk.injEq]
    constructor
    · rintro ⟨hn | ⟨rfl, rfl⟩, hopen⟩
      · obtain ⟨u, hu, hur, rfl⟩ := (h.inFlight n g).1 ⟨hn, hopen⟩
        refine ⟨u, hmem.2 (Or.inr ⟨hu, fun he => ?_⟩), hur, rfl⟩
        rw [ho.eq_of_generation_eq ht hu he, idle] at hur
        cases hur
      · exact ⟨t', hmem.2 (Or.inl rfl), hr, hg⟩
    · rintro ⟨u, hu, hur, rfl⟩
      rcases hmem.1 hu with rfl | ⟨hu, _⟩
      · obtain rfl : s.started + 1 = n := Option.some.inj (hr.symm.trans hur)
        exact ⟨Or.inr ⟨rfl, hg⟩, fun hn => Nat.not_succ_le_self _ (h.settled _ hn)⟩
      · obtain ⟨hn, hopen⟩ := (h.inFlight n u.generation).2 ⟨u, hu, hur, rfl⟩
        exact ⟨Or.inl hn, hopen⟩
  case settled =>
    rw [hsettled]
    exact fun n hn => Nat.le_succ_of_le (h.settled n hn)
  case inOrder =>
    rw [happlied]
    exact h.inOrder
  case later =>
    intro u hu hcur n hur m hm
    rw [happlied] at hm
    rcases hmem.1 hu with rfl | ⟨_, hne⟩
    · obtain rfl : s.started + 1 = n := Option.some.inj (hr.symm.trans hur)
      exact Nat.lt_succ_of_le (h.settled m (appliedIn_subset_settledIn history hm))
    · exact absurd (hcur.trans current) hne
  case begun =>
    intro p hp
    rw [hstarts, List.mem_append, List.mem_singleton] at hp
    rcases hp with hp | rfl
    · exact h.begun p hp
    · exact Nat.le_of_eq current.symm
  case unborn =>
    intro u hu hp n
    rw [hstarts, List.mem_append, List.mem_singleton, not_or]
    rcases hmem.1 hu with rfl | ⟨hu, hne⟩
    · simp [PollTask.retrieval?, hp] at hr
    · exact ⟨h.unborn u hu hp n, fun heq => hne (congrArg Prod.snd heq)⟩

/-- The retrieval of a task settles, whether its outcome is applied or not. -/
theorem IsRecorded.settle {s s' : Subscription α} {history : List (Nat × PollEvent α)}
    (h : s.IsRecorded history) (ho : s.IsOrderly) {t : PollTask} {now n : Nat}
    {e : PollEvent α} {t' : Option PollTask} (found : s.task? t.generation = some t)
    (busy : t.retrieval? = some n) (hs : s'.started = s.started)
    (hg : s'.generation = s.generation) (ht : s'.tasks = s.tasks)
    (hw : ∀ x ∈ t', x.generation = t.generation ∧ ∃ due, x.phase = .waiting due)
    (starts : e.started? = none) (settles : e.settled? = some n)
    (applies : ∀ m, e.applied? = some m → m = n ∧ t.generation = s.generation) :
    (s'.put t.generation t').IsRecorded (history ++ [e].map (now, ·)) := by
  have htm : t ∈ s.tasks := mem_of_task? found
  have hmem : ∀ {u}, u ∈ (s'.put t.generation t').tasks ↔
      u ∈ t' ∨ (u ∈ s.tasks ∧ u.generation ≠ t.generation) := by
    intro u
    rw [← ho.mem_put found fun x hx => (hw x hx).1]
    simp [put, ht]
  have hwait : ∀ u ∈ t', u.retrieval? = none := by
    intro u hu
    obtain ⟨_, due, hp⟩ := hw u hu
    simp [PollTask.retrieval?, hp]
  have hstarts : startsIn (history ++ [e].map (now, ·)) = startsIn history :=
    filterMap_quiet (by simpa using starts) now history
  have hsettled {m : Nat} : m ∈ settledIn (history ++ [e].map (now, ·)) ↔
      m ∈ settledIn history ∨ m = n := by
    simp [settledIn, List.filterMap_append, settles, eq_comm]
  have happlied : appliedIn (history ++ [e].map (now, ·)) =
      appliedIn history ++ e.applied?.toList := by
    cases ha : e.applied? <;> simp [appliedIn, List.filterMap_append, ha]
  obtain ⟨hstart, hopen⟩ := (h.inFlight n t.generation).2 ⟨t, htm, busy, rfl⟩
  constructor
  case numbers =>
    rw [hstarts]
    exact h.numbers.trans (by rw [put_started, hs])
  case inFlight =>
    intro m g
    simp only [InFlight, hstarts, hsettled, not_or]
    constructor
    · rintro ⟨hm, hmo, hne⟩
      obtain ⟨u, hu, hur, rfl⟩ := (h.inFlight m g).1 ⟨hm, hmo⟩
      refine ⟨u, hmem.2 (Or.inr ⟨hu, fun he => ?_⟩), hur, rfl⟩
      rw [ho.eq_of_generation_eq htm hu he, busy] at hur
      exact hne (Option.some.inj hur).symm
    · rintro ⟨u, hu, hur, rfl⟩
      rcases hmem.1 hu with hu | ⟨hu, hne⟩
      · rw [hwait u hu] at hur
        cases hur
      · obtain ⟨hm, hmo⟩ := (h.inFlight m u.generation).2 ⟨u, hu, hur, rfl⟩
        exact ⟨hm, hmo, fun he => hne (h.unique (he ▸ hm) hstart)⟩
  case settled =>
    intro m hm
    rw [put_started, hs]
    rcases hsettled.1 hm with hm | rfl
    · exact h.settled m hm
    · exact h.le_started hstart
  case inOrder =>
    rw [happlied, List.pairwise_append]
    refine ⟨h.inOrder, by cases e.applied? <;> simp, ?_⟩
    intro m hm x hx
    obtain ⟨rfl, hcur⟩ := applies x (by simpa using hx)
    exact h.later t htm hcur x busy m hm
  case later =>
    intro u hu hcur m hur x hx
    rw [put_generation, hg] at hcur
    rcases hmem.1 hu with hu | ⟨hu, hne⟩
    · rw [hwait u hu] at hur
      cases hur
    · rw [happlied, List.mem_append] at hx
      rcases hx with hx | hx
      · exact h.later u hu hcur m hur x hx
      · exact absurd (hcur.trans (applies x (by simpa using hx)).2.symm) hne
  case begun =>
    rw [hstarts, put_generation, hg]
    exact h.begun
  case unborn =>
    intro u hu hp m
    rw [hstarts]
    rcases hmem.1 hu with hu | ⟨hu, _⟩
    · obtain ⟨_, due, hwp⟩ := hw u hu
      simp [hp] at hwp
    · exact h.unborn u hu hp m

theorem IsRecorded.move {s s' : Subscription α} {history : List (Nat × PollEvent α)}
    {now : Nat} {es : List (PollEvent α)} (ho : s.IsOrderly) (h : s.IsRecorded history)
    (hm : Move now s s' es) : s'.IsRecorded (history ++ es.map (now, ·)) := by
  have hnone : AreQuiet ([] : List (PollEvent α)) := areQuiet_nil
  cases hm with
  | settings =>
    have hsame : ∀ t : PollTask, (id t).generation = t.generation ∧ (id t).phase = t.phase :=
      fun _ => ⟨rfl, rfl⟩
    exact h.quiet ho (.map rfl (Nat.le_refl _) (List.map_id _).symm hsame) hnone
  | activate inactive =>
    refine h.quiet ho ⟨rfl, Nat.le_succ _, ?_, ?_⟩ ?_
    · intro t ht _ _
      exact ⟨t, List.mem_append_left _ ht, rfl, rfl⟩
    · intro t' ht'
      rw [tasks_activate, List.mem_append, List.mem_singleton] at ht'
      rcases ht' with ht' | rfl
      · exact Or.inr (Or.inr ⟨t', ht', rfl, rfl⟩)
      · exact Or.inl ⟨rfl, Nat.lt_succ_self _⟩
    · exact areQuiet_activate s
  | deactivate active =>
    refine h.quiet ho (.map ?_ ?_ (tasks_deactivate active) ?_) ?_
    · simp [deactivate, active]
    · rw [generation_deactivate active]
      exact Nat.le_succ _
    · intro t
      split <;> exact ⟨rfl, rfl⟩
    · exact areQuiet_deactivate s
  | refresh active =>
    refine h.quiet ho (.map ?_ ?_ (tasks_refresh active) ?_) hnone
    · simp [refresh, active]
    · simp [refresh, active, generation, snapshot]
    · intro t
      split <;> simp
  | leave found chooses =>
    exact h.quiet ho (.put ho found (retrieval?_of_due? chooses) (by simp)) hnone
  | @wait t due found chooses =>
    exact h.quiet ho (.put ho found (retrieval?_of_due? chooses) (by simp)) hnone
  | start found chooses _ current =>
    exact h.start ho found (retrieval?_of_due? chooses) current rfl rfl
  | @apply t number since due outcome found busy current =>
    refine h.settle ho found (n := number) (by simp [PollTask.retrieval?, busy]) rfl
      (applyOutcome_generation s t now outcome) rfl ?_ ?_ ?_ ?_
    · rintro x ⟨⟩
      exact ⟨rfl, due, rfl⟩
    · cases outcome <;> rfl
    · cases outcome <;> rfl
    · intro m hm
      refine ⟨?_, current.symm⟩
      cases outcome <;> exact (Option.some.inj hm).symm
  | @discard t number since due found busy stale =>
    exact h.settle ho found (by simp [PollTask.retrieval?, busy]) rfl rfl rfl (by simp) rfl rfl
      (by simp [PollEvent.applied?])

theorem isRecorded_life (options : PollOptions) (born : Nat)
    (actions : List (Nat × PollAction α)) :
    (life options born actions).1.IsRecorded (life options born actions).2 :=
  life_induct IsBlank.isRecorded (fun ho h hm => h.move ho hm) options born actions


-- ---------------------------------------------------------------------------
-- Who starts and who applies
-- ---------------------------------------------------------------------------

theorem started_of_mem_proceed {s : Subscription α} {t : PollTask} {now due n g : Nat}
    {trigger : PollTrigger} (h : .started n g trigger ∈ (s.proceed t now due).2.2) :
    s.generation = g ∧ t.generation = g := by
  unfold proceed at h
  split at h
  · cases h
  · cases h
  · split at h
    · next hg =>
      simp only [List.mem_singleton, PollEvent.started.injEq] at h
      exact ⟨hg.trans h.2.1.symm, h.2.1.symm⟩
    · cases h

theorem started_of_mem_turn {s : Subscription α} {now generation n g : Nat}
    {trigger : PollTrigger} (h : .started n g trigger ∈ (s.turn now generation).2) :
    s.generation = g ∧ ∃ t ∈ s.tasks, t.generation = g := by
  unfold turn at h
  split at h
  · cases h
  · next t ht =>
    simp only at h
    split at h
    · obtain ⟨hs, hg⟩ := started_of_mem_proceed h
      exact ⟨hs, t, mem_of_task? ht, hg⟩
    · obtain ⟨hs, hg⟩ := started_of_mem_proceed h
      exact ⟨hs, t, mem_of_task? ht, hg⟩
    · cases h

theorem started_of_mem_settle {s : Subscription α} {now number n g : Nat}
    {outcome : Except RetrievalError α} {trigger : PollTrigger}
    (h : .started n g trigger ∈ (s.settle now number outcome).2) :
    s.generation = g ∧ ∃ t ∈ s.tasks, t.generation = g := by
  unfold settle at h
  split at h
  · cases h
  · next t ht =>
    split at h
    · split at h
      · rcases List.mem_cons.1 h with h | h
        · cases outcome <;> cases h
        · obtain ⟨hs, hg⟩ := started_of_mem_proceed h
          rw [applyOutcome_generation] at hs
          exact ⟨hs, t, List.mem_of_find?_eq_some ht, hg⟩
      · simp at h
    · cases h

/-- The owner's steps begin and end activations; retrievals are the tasks' business. -/
theorem areQuiet_owner (s : Subscription α) (now : Nat) {a : PollAction α}
    (h : a.IsOwners) : AreQuiet (s.act now a).2 := by
  cases a with
  | turn => cases h
  | settle => cases h
  | refresh =>
    simp only [act]
    split <;> exact areQuiet_nil
  | drop =>
    simp only [act, drop]
    split
    · exact areQuiet_nil
    · exact areQuiet_deactivate s
  | setEnabled enabled =>
    simp only [act, setEnabled]
    split
    · exact areQuiet_nil
    · split
      · exact areQuiet_nil
      · split
        · exact areQuiet_activate _
        · exact areQuiet_deactivate _
  | setResyncKey key =>
    simp only [act, setResyncKey]
    split
    · exact areQuiet_nil
    · split
      · exact areQuiet_nil
      · split
        · intro e he
          rcases List.mem_append.1 he with he | he
          · exact areQuiet_deactivate _ e he
          · exact areQuiet_activate _ e he
        · exact areQuiet_nil

/-- A retrieval starts only in a step of the task whose activation is the snapshot's. -/
theorem started_of_mem_act {s : Subscription α} {now n g : Nat} {a : PollAction α}
    {trigger : PollTrigger} (h : .started n g trigger ∈ (s.act now a).2) :
    s.generation = g ∧ ∃ t ∈ s.tasks, t.generation = g := by
  cases a with
  | turn generation => exact started_of_mem_turn h
  | settle number outcome => exact started_of_mem_settle h
  | _ => cases areQuiet_owner s now (by trivial) _ h

/-- A task that chooses applies nothing. -/
theorem applied?_of_mem_proceed {s : Subscription α} {t : PollTask} {now due : Nat}
    {e : PollEvent α} (h : e ∈ (s.proceed t now due).2.2) : e.applied? = none := by
  unfold proceed at h
  split at h
  · cases h
  · cases h
  · split at h
    · obtain rfl := List.mem_singleton.1 h
      rfl
    · cases h

theorem applied?_of_mem_turn {s : Subscription α} {now generation : Nat} {e : PollEvent α}
    (h : e ∈ (s.turn now generation).2) : e.applied? = none := by
  unfold turn at h
  split at h
  · cases h
  · simp only at h
    split at h
    · exact applied?_of_mem_proceed h
    · exact applied?_of_mem_proceed h
    · cases h

/-- A settlement reports that its outcome was applied exactly if it writes the snapshot. -/
theorem applied?_settle {s : Subscription α} {now number m : Nat}
    {outcome : Except RetrievalError α} :
    (∃ e ∈ (s.settle now number outcome).2, e.applied? = some m) ↔
      m = number ∧ (s.settle now number outcome).1.watched.version = s.watched.version + 1 := by
  unfold settle
  split
  · simp
  · split
    · split
      · constructor
        · rintro ⟨e, he, hm⟩
          refine ⟨?_, rfl⟩
          rcases List.mem_cons.1 he with rfl | he
          · cases outcome <;> exact (Option.some.inj hm).symm
          · rw [applied?_of_mem_proceed he] at hm
            cases hm
        · rintro ⟨rfl, _⟩
          refine ⟨_, List.mem_cons_self, ?_⟩
          cases outcome <;> rfl
      · simp [PollEvent.applied?]
    · simp

/-- Outcomes are applied by settlements only, each once, and that is one write. -/
theorem applied?_act {s : Subscription α} {now m : Nat} {a : PollAction α} :
    (∃ e ∈ (s.act now a).2, e.applied? = some m) ↔
      ∃ outcome, a = .settle m outcome ∧
        (s.act now a).1.watched.version = s.watched.version + 1 := by
  cases a with
  | settle number outcome =>
    simp only [act, applied?_settle, PollAction.settle.injEq]
    constructor
    · rintro ⟨rfl, hv⟩
      exact ⟨outcome, ⟨rfl, rfl⟩, hv⟩
    · rintro ⟨_, ⟨rfl, _⟩, hv⟩
      exact ⟨rfl, hv⟩
  | turn generation =>
    simp only [reduceCtorEq, false_and, exists_false, iff_false, not_exists, not_and]
    intro e he
    simp [applied?_of_mem_turn he]
  | _ =>
    simp only [reduceCtorEq, false_and, exists_false, iff_false, not_exists, not_and]
    intro e he
    simp [PollEvent.applied?_eq_none (areQuiet_owner s now (by trivial) e he)]

/-- An activation that is over before it started a retrieval never starts one. -/
theorem not_mem_startsIn_of_lt {options : PollOptions} {born g : Nat}
    {before : List (Nat × PollAction α)} (after : List (Nat × PollAction α))
    (ended : g < (life options born before).1.generation)
    (none : ∀ n, (n, g) ∉ startsIn (life options born before).2) (n : Nat) :
    (n, g) ∉ startsIn (life options born (before ++ after)).2 := by
  induction after using List.reverseRecOn with
  | nil => simpa using none n
  | append_singleton after a ih =>
    rw [← List.append_assoc, life_snoc]
    simp only [startsIn, List.filterMap_append, List.mem_append, not_or]
    refine ⟨ih, ?_⟩
    simp only [List.mem_filterMap, List.mem_map, not_exists, not_and]
    rintro _ ⟨e, he, rfl⟩ hstart
    cases e with
    | started m g' trigger =>
      obtain ⟨_, rfl⟩ := Prod.mk.inj (Option.some.inj hstart)
      have hnow := (started_of_mem_act he).1
      have hmono := generation_life_le options born before after
      omega
    | _ => cases hstart


-- ---------------------------------------------------------------------------
-- Single flight and issue order
-- ---------------------------------------------------------------------------

/-- Whatever the owner and the tasks do, and in whatever order: an activation has at most one
retrieval in flight; retrievals start only in the current activation of an enabled
subscription that its owner still has; and outcomes reach the snapshot in the order in which
their retrievals started. -/
theorem single_flight_in_issue_order (options : PollOptions) (born : Nat)
    (actions : List (Nat × PollAction α)) :
    (∀ n n' g, InFlight (life options born actions).2 n g →
      InFlight (life options born actions).2 n' g → n = n') ∧
    (∀ before after now a n g trigger, actions = before ++ (now, a) :: after →
      .started n g trigger ∈ ((life options born before).1.act now a).2 →
      (life options born before).1.generation = g ∧
      (life options born before).1.activation = some g ∧
      (life options born before).1.enabled = true ∧
      (life options born before).1.dropped = false) ∧
    -- An activation that was revoked before its task first ran starts none.
    (∀ before after t, actions = before ++ after → t ∈ (life options born before).1.tasks →
      t.phase = .spawned → (life options born before).1.generation ≠ t.generation →
      ∀ n, (n, t.generation) ∉ startsIn (life options born actions).2) ∧
    -- Numbers count the starts of the whole life, and outcomes are applied in their order.
    (startsIn (life options born actions).2).map (·.1) =
      List.range' 1 (startsIn (life options born actions).2).length ∧
    (appliedIn (life options born actions).2).Pairwise (· < ·) ∧
    -- What counts as applied is what is written into the snapshot.
    (∀ before after now a m, actions = before ++ (now, a) :: after →
      ((∃ e ∈ ((life options born before).1.act now a).2, e.applied? = some m) ↔
        ∃ outcome, a = .settle m outcome ∧
          ((life options born before).1.act now a).1.watched.version =
            (life options born before).1.watched.version + 1)) := by
  have hrec := isRecorded_life options born actions
  refine ⟨?_, ?_, ?_, ?_, hrec.inOrder, ?_⟩
  · intro n n' g hn hn'
    obtain ⟨t, ht, hr, hg⟩ := (hrec.inFlight n g).1 hn
    obtain ⟨t', ht', hr', hg'⟩ := (hrec.inFlight n' g).1 hn'
    have ho := isOrderly_life options born actions
    rw [ho.eq_of_generation_eq ht ht' (hg'.trans hg.symm), hr] at hr'
    exact Option.some.inj hr'
  · intro before after now a n g trigger _ hstart
    obtain ⟨hgen, t, ht, rfl⟩ := started_of_mem_act hstart
    have hactive := (isOrderly_life options born before).current t ht hgen.symm
    have hbook := isBookkept_life options born before
    simp only [IsBookkept, isActive, hactive, Option.isSome_some] at hbook
    exact ⟨hgen, hactive, by simpa using hbook.symm⟩
  · rintro before after t rfl ht hp hne n
    have hle := (isOrderly_life options born before).bounded t ht
    exact not_mem_startsIn_of_lt after (Nat.lt_of_le_of_ne hle (Ne.symm hne))
      ((isRecorded_life options born before).unborn t ht hp) n
  · have hlen := congrArg List.length hrec.numbers
    rw [List.length_map, List.length_range'] at hlen
    rw [hrec.numbers, hlen]
  · intro before after now a m _
    exact applied?_act

/-- An old retrieval settles while the next activation is inside one, and polling is paused
once more before the third activation runs. -/
theorem single_flight_when_restarted :
    let ms := millisecond
    let options : PollOptions := { interval := ⟨10 * ms, by decide⟩ }
    let before : List (Nat × PollAction Nat) :=
      [(0, .turn 1), (ms, .setEnabled false), (2 * ms, .setEnabled true), (2 * ms, .turn 3),
       (3 * ms, .settle 1 (.ok 7)), (4 * ms, .settle 2 (.ok 8)), (12 * ms, .turn 3),
       (13 * ms, .setEnabled false), (13 * ms, .setEnabled true), (13 * ms, .setEnabled false)]
    let after : List (Nat × PollAction Nat) := [(14 * ms, .turn 5), (15 * ms, .settle 3 (.ok 9))]
    let history := (life options 0 (before ++ after)).2
    startsIn history = [(1, 1), (2, 3), (3, 3)] ∧ appliedIn history = [2] ∧
      ({ generation := 5, stopRequested := true } : PollTask) ∈ (life options 0 before).1.tasks ∧
      (life options 0 before).1.generation ≠ 5 ∧ ∀ n, (n, 5) ∉ startsIn history := by
  intro ms options before after history
  have htask : ({ generation := 5, stopRequested := true } : PollTask) ∈
      (life options 0 before).1.tasks := by decide +kernel
  have hover : (life options 0 before).1.generation ≠ 5 := by decide +kernel
  refine ⟨by decide +kernel, by decide +kernel, htask, hover, ?_⟩
  exact (single_flight_in_issue_order options 0 (before ++ after)).2.2.1 before after
    { generation := 5, stopRequested := true } rfl htask rfl hover

end Subscription

end DashboardClient
