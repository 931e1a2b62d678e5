import DashboardClient.Proofs.Polling.SingleFlight

/-!
# Revoked retrievals

A retrieval is revoked when its activation ends while it is in flight. Its task stays inside it
until it settles, and every task that is inside a retrieval without being the current one got
there in this way. The outcome of a revoked retrieval never reaches the snapshot: the generation
has moved on, and generations only grow.
-/

namespace DashboardClient

theorem PollTask.retrieval?_eq_some_iff {t : PollTask} {n : Nat} :
    t.retrieval? = some n ↔ ∃ since due, t.phase = .retrieving n since due := by
  unfold PollTask.retrieval?
  cases t.phase with
  | spawned => simp
  | waiting => simp
  | retrieving m since due => simp

namespace Subscription

variable {α : Type} {s s' : Subscription α} {history : List (Nat × PollEvent α)}
  {now n g : Nat} {es : List (PollEvent α)}

/-- The retrieval was in flight when its activation ended. -/
def Revoked (history : List (Nat × PollEvent α)) (number generation : Nat) : Prop :=
  ∃ before time after, history = before ++ (time, .deactivated generation) :: after ∧
    InFlight before number generation

theorem Revoked.append (h : Revoked history n g) (later : List (Nat × PollEvent α)) :
    Revoked (history ++ later) n g := by
  obtain ⟨before, time, after, rfl, hflight⟩ := h
  exact ⟨before, time, after ++ later, by simp, hflight⟩

/-- A retrieval is revoked already, or it is revoked by the end of an activation. -/
theorem revoked_append_cases (h : Revoked (history ++ es.map (now, ·)) n g)
    (ends : ∀ g', .deactivated g' ∈ es → es = [.deactivated g']) :
    Revoked history n g ∨ es = [.deactivated g] ∧ InFlight history n g := by
  obtain ⟨before, time, after, hsplit, hflight⟩ := h
  rcases List.append_eq_append_iff.1 hsplit with ⟨later, hbefore, hes⟩ | ⟨later, hhistory, hes⟩
  · have hmem : (time, PollEvent.deactivated g) ∈ es.map (now, ·) := by
      rw [hes]
      exact List.mem_append_right _ List.mem_cons_self
    obtain ⟨e, he, heq⟩ := List.mem_map.1 hmem
    obtain ⟨rfl, rfl⟩ := Prod.mk.inj heq
    have honly := ends g he
    subst honly
    -- The one event of the step is the end itself, so all before it is the history.
    have hlater : later = [] := by
      cases later with
      | nil => rfl
      | cons x xs => cases xs <;> simp at hes
    rw [hlater, List.append_nil] at hbefore
    exact Or.inr ⟨rfl, hbefore ▸ hflight⟩
  · cases later with
    | nil =>
      rw [List.nil_append] at hes
      have hmem : (time, PollEvent.deactivated g) ∈ es.map (now, ·) := by
        rw [← hes]
        exact List.mem_cons_self
      obtain ⟨e, he, heq⟩ := List.mem_map.1 hmem
      obtain ⟨rfl, rfl⟩ := Prod.mk.inj heq
      rw [List.append_nil] at hhistory
      exact Or.inr ⟨ends g he, hhistory ▸ hflight⟩
    | cons x xs =>
      obtain ⟨rfl, hafter⟩ := List.cons.inj hes
      exact Or.inl ⟨before, time, xs, hhistory, hflight⟩


-- ---------------------------------------------------------------------------
-- What a move does to revoked retrievals
-- ---------------------------------------------------------------------------

/-- An activation ends in a move of its own. -/
theorem Move.deactivated_cases (hm : Move now s s' es) (ended : .deactivated g ∈ es) :
    es = [.deactivated g] ∧ s.activation = some g ∧ s'.generation = s.generation + 1 := by
  cases hm with
  | @deactivate g' active =>
    have hevents : s.deactivate.2 = [.deactivated g'] := by
      simp [Subscription.deactivate, active]
    rw [hevents, List.mem_singleton, PollEvent.deactivated.injEq] at ended
    subst ended
    exact ⟨hevents, active, generation_deactivate active⟩
  | @apply t number _ _ outcome => cases outcome <;> simp [outcomeEvent] at ended
  | _ => simp [Subscription.activate] at ended

/-- Only the current task applies an outcome, that of the retrieval it is inside of. -/
theorem Move.applied_cases (hm : Move now s s' es) {e : PollEvent α} (mem : e ∈ es)
    (applied : e.applied? = some n) :
    ∃ t ∈ s.tasks, t.retrieval? = some n ∧ t.generation = s.generation := by
  cases hm with
  | @apply t number since due outcome found busy current =>
    rw [List.mem_singleton] at mem
    subst mem
    obtain rfl : number = n := by cases outcome <;> exact Option.some.inj applied
    have hbusy : t.retrieval? = some number := PollTask.retrieval?_eq_some_iff.2 ⟨_, _, busy⟩
    exact ⟨t, mem_of_task? found, hbusy, current.symm⟩
  | activate => simp [PollEvent.applied?_eq_none (areQuiet_activate s e mem)] at applied
  | deactivate => simp [PollEvent.applied?_eq_none (areQuiet_deactivate s e mem)] at applied
  | start =>
    rw [List.mem_singleton] at mem
    subst mem
    cases applied
  | discard =>
    rw [List.mem_singleton] at mem
    subst mem
    cases applied
  | _ => cases mem

/-- A task that is inside a retrieval after a move was inside it before, or has begun it as
the current task. -/
theorem Move.retrieving_cases (hm : Move now s s' es) (ho : s.IsOrderly) {t' : PollTask}
    (ht : t' ∈ s'.tasks) (hr : t'.retrieval? = some n) :
    (∃ t ∈ s.tasks, t.retrieval? = some n ∧ t.generation = t'.generation) ∨
      s'.activation = some t'.generation := by
  cases hm with
  | settings => exact Or.inl ⟨t', ht, hr, rfl⟩
  | activate =>
    rw [tasks_activate, List.mem_append, List.mem_singleton] at ht
    rcases ht with ht | rfl
    · exact Or.inl ⟨t', ht, hr, rfl⟩
    · cases hr
  | deactivate active =>
    rw [tasks_deactivate active] at ht
    obtain ⟨t, hmem, rfl⟩ := List.mem_map.1 ht
    refine Or.inl ⟨t, hmem, ?_, by split <;> rfl⟩
    rw [← hr]
    exact retrieval?_congr (by split <;> rfl)
  | refresh active =>
    rw [tasks_refresh active] at ht
    obtain ⟨t, hmem, rfl⟩ := List.mem_map.1 ht
    refine Or.inl ⟨t, hmem, ?_, by split <;> simp⟩
    rw [← hr]
    exact retrieval?_congr (by split <;> simp)
  | leave found =>
    rcases (ho.mem_put found (by simp)).1 ht with ht | ⟨ht, _⟩
    · cases ht
    · exact Or.inl ⟨t', ht, hr, rfl⟩
  | wait found =>
    rcases (ho.mem_put found (by simp)).1 ht with ht | ⟨ht, _⟩
    · obtain rfl := Option.some.inj ht
      cases hr
    · exact Or.inl ⟨t', ht, hr, rfl⟩
  | @start t _ _ _ _ found _ _ current =>
    have hcounted : s.countStart.IsOrderly := ho.congr rfl rfl rfl
    rcases (hcounted.mem_put found (by simp)).1 ht with ht | ⟨ht, _⟩
    · obtain rfl := Option.some.inj ht
      exact Or.inr (ho.current t (mem_of_task? found) current.symm)
    · exact Or.inl ⟨t', ht, hr, rfl⟩
  | @apply t _ _ _ outcome found =>
    have happlied : (s.applyOutcome t now outcome).IsOrderly :=
      ho.congr rfl rfl (applyOutcome_generation s t now outcome)
    rcases (happlied.mem_put found (by simp [PollTask.afterFirst])).1 ht with ht | ⟨ht, _⟩
    · obtain rfl := Option.some.inj ht
      cases hr
    · exact Or.inl ⟨t', ht, hr, rfl⟩
  | discard found =>
    rcases (ho.mem_put found (by simp)).1 ht with ht | ⟨ht, _⟩
    · cases ht
    · exact Or.inl ⟨t', ht, hr, rfl⟩

/-- The current activation is over after a move only if the move ends it. -/
theorem Move.ends_of_activation_ne (hm : Move now s s' es) (active : s.activation = some g)
    (ended : s'.activation ≠ some g) : es = [.deactivated g] := by
  cases hm with
  | activate inactive => cases inactive.symm.trans active
  | deactivate hactive =>
    obtain rfl := Option.some.inj (hactive.symm.trans active)
    simp [Subscription.deactivate, active]
  | refresh => exact absurd (by simp [Subscription.refresh, active]) ended
  | _ => exact absurd active ended

/-- What the history says about revoked retrievals, and the tasks that are inside them. -/
structure IsAccounted (s : Subscription α) (history : List (Nat × PollEvent α)) : Prop where
  past : ∀ n g, Revoked history n g → (n, g) ∈ startsIn history ∧ g < s.generation
  unapplied : ∀ n g, Revoked history n g → n ∉ appliedIn history
  revoked : ∀ t ∈ s.tasks, ∀ n, t.retrieval? = some n → s.activation ≠ some t.generation →
    Revoked history n t.generation

theorem IsBlank.isAccounted (h : s.IsBlank) : s.IsAccounted [] := by
  have hnone (n g : Nat) : ¬Revoked ([] : List (Nat × PollEvent α)) n g := by
    rintro ⟨before, time, after, hnil, _⟩
    cases before <;> cases hnil
  constructor
  case past => exact fun n g hrevoked => absurd hrevoked (hnone n g)
  case unapplied => exact fun n g hrevoked => absurd hrevoked (hnone n g)
  case revoked => simp [h.tasks]

theorem IsAccounted.move (h : s.IsAccounted history) (ho : s.IsOrderly)
    (hr : s.IsRecorded history) (hm : Move now s s' es) :
    s'.IsAccounted (history ++ es.map (now, ·)) := by
  have hgrows : s.generation ≤ s'.generation := (Moves.single hm).generation_le
  have hcases {n g : Nat} (hrevoked : Revoked (history ++ es.map (now, ·)) n g) :
      Revoked history n g ∨ es = [.deactivated g] ∧ InFlight history n g :=
    revoked_append_cases hrevoked fun _ hended => (hm.deactivated_cases hended).1
  constructor
  case past =>
    intro n g hrevoked
    have hstays {p : Nat × Nat} (hp : p ∈ startsIn history) :
        p ∈ startsIn (history ++ es.map (now, ·)) := by
      rw [startsIn, List.filterMap_append]
      exact List.mem_append_left _ hp
    rcases hcases hrevoked with hbefore | ⟨rfl, hstart, _⟩
    · obtain ⟨hstart, hlt⟩ := h.past n g hbefore
      exact ⟨hstays hstart, Nat.lt_of_lt_of_le hlt hgrows⟩
    · obtain ⟨_, _, hnext⟩ := hm.deactivated_cases List.mem_cons_self
      exact ⟨hstays hstart, hnext ▸ Nat.lt_succ_of_le (hr.begun _ hstart)⟩
  case unapplied =>
    intro n g hrevoked hmem
    rw [appliedIn, List.filterMap_append, List.mem_append] at hmem
    rcases hcases hrevoked with hbefore | ⟨rfl, _, hopen⟩
    · rcases hmem with hmem | hmem
      · exact h.unapplied n g hbefore hmem
      · obtain ⟨_, htimed, happlied⟩ := List.mem_filterMap.1 hmem
        obtain ⟨e, he, rfl⟩ := List.mem_map.1 htimed
        obtain ⟨t, ht, hbusy, hcur⟩ := hm.applied_cases he happlied
        obtain ⟨hstart, hlt⟩ := h.past n g hbefore
        have hcurrent := ((hr.inFlight n t.generation).2 ⟨t, ht, hbusy, rfl⟩).1
        have hsame := hr.unique hstart hcurrent
        omega
    · rcases hmem with hmem | hmem
      · exact hopen (appliedIn_subset_settledIn history hmem)
      · simp [PollEvent.applied?] at hmem
  case revoked =>
    intro t' ht' n hbusy hne
    rcases hm.retrieving_cases ho ht' hbusy with ⟨t, ht, hbefore, hg⟩ | hcur
    · rw [← hg] at hne ⊢
      by_cases hactive : s.activation = some t.generation
      · have hended := hm.ends_of_activation_ne hactive hne
        subst hended
        refine ⟨history, now, [], by simp, ?_⟩
        exact (hr.inFlight n t.generation).2 ⟨t, ht, hbefore, rfl⟩
      · exact (h.revoked t ht n hbefore hactive).append _
    · exact absurd hcur hne

theorem isAccounted_life (options : PollOptions) (born : Nat)
    (actions : List (Nat × PollAction α)) :
    (life options born actions).1.IsAccounted (life options born actions).2 := by
  have hboth := life_induct (α := α) (P := fun s h => s.IsRecorded h ∧ s.IsAccounted h)
    (fun hs => ⟨hs.isRecorded, hs.isAccounted⟩)
    (fun ho h hm => ⟨h.1.move ho hm, h.2.move ho h.1 hm⟩) options born actions
  exact hboth.2


-- ---------------------------------------------------------------------------
-- A revoked retrieval settles
-- ---------------------------------------------------------------------------

theorem IsRecorded.retrieving?_eq (hr : s.IsRecorded history) (ho : s.IsOrderly) {t : PollTask}
    (ht : t ∈ s.tasks) (busy : t.retrieval? = some n) : s.retrieving? n = some t := by
  cases hfind : s.retrieving? n with
  | none =>
    have hnone := List.find?_eq_none.1 hfind t ht
    simp [busy] at hnone
  | some u =>
    have hu : u ∈ s.tasks := List.mem_of_find?_eq_some hfind
    have hbusy : u.retrieval? = some n := by simpa using List.find?_some hfind
    have hstart := ((hr.inFlight n t.generation).2 ⟨t, ht, busy, rfl⟩).1
    have hstart' := ((hr.inFlight n u.generation).2 ⟨u, hu, hbusy, rfl⟩).1
    rw [ho.eq_of_generation_eq ht hu (hr.unique hstart' hstart)]

theorem IsRecorded.replaceFirst_retrieving (hr : s.IsRecorded history) (ho : s.IsOrderly)
    {t : PollTask} (ht : t ∈ s.tasks) (busy : t.retrieval? = some n) (t' : Option PollTask) :
    replaceFirst (·.retrieval? == some n) t' s.tasks = (s.put t.generation t').tasks :=
  replaceFirst_congr t' ho.distinct (hr.retrieving?_eq ho ht busy)
    ((find?_eq_some_iff_mem ho.distinct).2 ht)

/-- A task whose activation is over ends when its retrieval settles. -/
theorem settle_of_stale (hr : s.IsRecorded history) (ho : s.IsOrderly) {t : PollTask}
    {since due : Nat} (ht : t ∈ s.tasks) (busy : t.phase = .retrieving n since due)
    (stale : s.generation ≠ t.generation) (outcome : Except RetrievalError α) :
    s.settle now n outcome = (s.put t.generation none, [.discarded n t.generation]) := by
  have hbusy : t.retrieval? = some n := PollTask.retrieval?_eq_some_iff.2 ⟨_, _, busy⟩
  unfold settle
  simp only [hr.retrieving?_eq ho ht hbusy, busy, stale, if_false,
    hr.replaceFirst_retrieving ho ht hbusy]
  rfl

/-- The current task applies the outcome of its retrieval and goes on. -/
theorem settle_of_current (hr : s.IsRecorded history) (ho : s.IsOrderly) {t : PollTask}
    {since due : Nat} (ht : t ∈ s.tasks) (busy : t.phase = .retrieving n since due)
    (current : s.generation = t.generation) (outcome : Except RetrievalError α) :
    s.settle now n outcome =
      let applied := s.applyOutcome t now outcome
      let after := applied.proceed t.afterFirst now due
      ({ applied.put t.generation after.1 with started := after.2.1 },
        s.outcomeEvent n t.generation outcome :: after.2.2) := by
  have hbusy : t.retrieval? = some n := PollTask.retrieval?_eq_some_iff.2 ⟨_, _, busy⟩
  unfold settle
  simp only [hr.retrieving?_eq ho ht hbusy, busy, current, if_true,
    hr.replaceFirst_retrieving ho ht hbusy]
  rfl

/-- Nothing happens if the retrieval is not in flight. -/
theorem settle_of_not_inFlight (hr : s.IsRecorded history) (none : ∀ g, ¬InFlight history n g)
    (outcome : Except RetrievalError α) : s.settle now n outcome = (s, []) := by
  have hfind : s.retrieving? n = Option.none := by
    refine List.find?_eq_none.2 fun t ht hbusy => ?_
    exact none t.generation ((hr.inFlight n t.generation).2 ⟨t, ht, by simpa using hbusy, rfl⟩)
  simp [settle, hfind]

end Subscription

end DashboardClient
