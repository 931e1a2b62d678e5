import DashboardClient.Proofs.Polling.Revocation
import Mathlib.Data.List.DropRight

/-!
# What a snapshot means

Every field of a snapshot can be read off the history of its subscription. The data is the
last value that was ever retrieved, and the instant beside it is that of its arrival. The error
and the loading flag look back to the latest activation only: the error is that of the last
outcome since then, and the flag says that there was none yet.

The fields are written by the owner and by tasks of several activations. The invariant holds
them together with the one fact that each task keeps for itself, whether its first retrieval
is still to come.
-/

namespace DashboardClient

variable {α : Type}

namespace PollEvent

/-- The outcome that is applied. -/
def outcome? : PollEvent α → Option (Except RetrievalError α)
  | .succeeded _ _ value => some (.ok value)
  | .failed _ _ e _ => some (.error e)
  | _ => none

def isActivation : PollEvent α → Bool
  | .activated _ _ _ => true
  | _ => false

theorem outcome?_eq_none_iff (e : PollEvent α) : e.outcome? = none ↔ e.applied? = none := by
  cases e <;> simp [outcome?, applied?]

end PollEvent

namespace Subscription

variable {s s' : Subscription α} {history : List (Nat × PollEvent α)} {now : Nat}
  {es : List (PollEvent α)} {e : PollEvent α}

-- ---------------------------------------------------------------------------
-- What a history says about outcomes
-- ---------------------------------------------------------------------------

/-- The outcomes that were applied, each with its instant, in the order of application. -/
def outcomesIn (history : List (Nat × PollEvent α)) : List (Nat × Except RetrievalError α) :=
  history.filterMap fun e => e.2.outcome?.map (e.1, ·)

/-- The values that were applied, each with its instant, in the order of application. -/
def valuesIn (history : List (Nat × PollEvent α)) : List (Nat × α) :=
  (outcomesIn history).filterMap fun o => o.2.toOption.map (o.1, ·)

/-- What happened since the latest activation began. -/
def sinceActivation (history : List (Nat × PollEvent α)) : List (Nat × PollEvent α) :=
  history.rtakeWhile (!·.2.isActivation)

/-- The message of an outcome that is a failure. -/
def failureMessage? : Except RetrievalError α → Option String
  | .ok _ => none
  | .error e => some e.message

theorem failureMessage?_eq_some_iff {outcome : Except RetrievalError α} {message : String} :
    failureMessage? outcome = some message ↔ ∃ e, outcome = .error e ∧ message = e.message := by
  cases outcome <;> simp [failureMessage?, eq_comm]

theorem outcomesIn_append (first rest : List (Nat × PollEvent α)) :
    outcomesIn (first ++ rest) = outcomesIn first ++ outcomesIn rest :=
  List.filterMap_append

theorem valuesIn_append (first rest : List (Nat × PollEvent α)) :
    valuesIn (first ++ rest) = valuesIn first ++ valuesIn rest := by
  rw [valuesIn, outcomesIn_append, List.filterMap_append]
  rfl

/-- Nothing is applied in an event without an outcome. -/
theorem valuesIn_snoc_of_none (h : e.outcome? = none) :
    valuesIn (history ++ [(now, e)]) = valuesIn history := by
  simp [valuesIn, outcomesIn, h]

theorem outcomesIn_since_activation (h : e.isActivation = true) :
    outcomesIn (sinceActivation (history ++ [(now, e)])) = [] := by
  rw [sinceActivation, List.rtakeWhile_concat_neg _ _ _ (by simp [h])]
  rfl

theorem outcomesIn_since_snoc (h : e.isActivation = false) :
    outcomesIn (sinceActivation (history ++ [(now, e)])) =
      outcomesIn (sinceActivation history) ++ (e.outcome?.map (now, ·)).toList := by
  rw [sinceActivation, List.rtakeWhile_concat_pos _ _ _ (by simp [h]), outcomesIn_append,
    ← sinceActivation]
  cases he : e.outcome? <;> simp [outcomesIn, he]


-- ---------------------------------------------------------------------------
-- The invariant
-- ---------------------------------------------------------------------------

/-- The history of a subscription explains its snapshot. -/
structure IsExplained (s : Subscription α) (history : List (Nat × PollEvent α)) : Prop where
  data : s.snapshot.data = (valuesIn history).getLast?.map (·.2)
  updated : s.snapshot.lastUpdated = (valuesIn history).getLast?.map (·.1)
  error : s.snapshot.error =
    (outcomesIn (sinceActivation history)).getLast?.bind (failureMessage? ·.2)
  active : s.snapshot.active = s.isActive
  loading : s.snapshot.initialLoading =
    (s.isActive && (outcomesIn (sinceActivation history)).isEmpty)
  /-- The current task has its first retrieval before it as long as no outcome was applied. -/
  first : ∀ t ∈ s.tasks, s.activation = some t.generation →
    t.beforeFirst = (outcomesIn (sinceActivation history)).isEmpty

theorem IsBlank.isExplained (h : s.IsBlank) : s.IsExplained [] := by
  obtain ⟨hw, ha, ht, _⟩ := h
  constructor <;>
    simp [snapshot, hw, ha, ht, isActive, valuesIn, outcomesIn, sinceActivation]

/-- A step without an activation and without an outcome that leaves the snapshot alone. -/
theorem IsExplained.quiet (h : s.IsExplained history) (hw : s'.snapshot = s.snapshot)
    (ha : s'.activation = s.activation)
    (ht : ∀ t' ∈ s'.tasks, ∃ t ∈ s.tasks,
      t.generation = t'.generation ∧ t.beforeFirst = t'.beforeFirst)
    (hes : es = [] ∨ ∃ e, es = [e] ∧ e.isActivation = false ∧ e.outcome? = none) :
    s'.IsExplained (history ++ es.map (now, ·)) := by
  have hvalues : valuesIn (history ++ es.map (now, ·)) = valuesIn history := by
    rcases hes with rfl | ⟨e, rfl, _, hnone⟩
    · simp
    · exact valuesIn_snoc_of_none hnone
  have hsince : outcomesIn (sinceActivation (history ++ es.map (now, ·))) =
      outcomesIn (sinceActivation history) := by
    rcases hes with rfl | ⟨e, rfl, hstays, hnone⟩
    · simp
    · rw [List.map_singleton, outcomesIn_since_snoc hstays, hnone]
      simp
  have hactive : s'.isActive = s.isActive := by rw [isActive, ha, isActive]
  constructor
  case data =>
    rw [hvalues, hw]
    exact h.data
  case updated =>
    rw [hvalues, hw]
    exact h.updated
  case error =>
    rw [hsince, hw]
    exact h.error
  case active =>
    rw [hw, hactive]
    exact h.active
  case loading =>
    rw [hsince, hw, hactive]
    exact h.loading
  case first =>
    intro t' ht' hcur
    obtain ⟨t, htm, hg, hf⟩ := ht t' ht'
    rw [hsince, ← hf]
    exact h.first t htm (by rw [← ha, hcur, hg])

theorem IsExplained.activate (h : s.IsExplained history) (ho : s.IsOrderly) :
    s.activate.1.IsExplained (history ++ s.activate.2.map (now, ·)) := by
  have hevents : s.activate.2.map (now, ·) =
      [(now, .activated (s.generation + 1) s.resyncKey s.interval.millis)] := rfl
  have hvalues : valuesIn (history ++ s.activate.2.map (now, ·)) = valuesIn history := by
    rw [hevents]
    exact valuesIn_snoc_of_none rfl
  have hsince : outcomesIn (sinceActivation (history ++ s.activate.2.map (now, ·))) = [] := by
    rw [hevents]
    exact outcomesIn_since_activation rfl
  constructor
  case data =>
    rw [hvalues]
    exact h.data
  case updated =>
    rw [hvalues]
    exact h.updated
  case error =>
    rw [hsince]
    rfl
  case active => rfl
  case loading =>
    rw [hsince]
    rfl
  case first =>
    intro t ht hcur
    rw [hsince]
    rw [activation_activate, Option.some.injEq] at hcur
    rw [tasks_activate, List.mem_append, List.mem_singleton] at ht
    rcases ht with ht | rfl
    · have hle := ho.bounded t ht
      omega
    · rfl

theorem IsExplained.deactivate (h : s.IsExplained history) {g : Nat}
    (active : s.activation = some g) :
    s.deactivate.1.IsExplained (history ++ s.deactivate.2.map (now, ·)) := by
  have hevents : s.deactivate.2.map (now, ·) = [(now, .deactivated g)] := by
    simp [Subscription.deactivate, active]
  have hsnapshot : s.deactivate.1.snapshot = s.snapshot.deactivate := by
    simp [Subscription.deactivate, active, snapshot, Watched.modify, Watched.write]
  have hactivation := activation_deactivate s
  have hvalues : valuesIn (history ++ s.deactivate.2.map (now, ·)) = valuesIn history := by
    rw [hevents]
    exact valuesIn_snoc_of_none rfl
  have hsince : outcomesIn (sinceActivation (history ++ s.deactivate.2.map (now, ·))) =
      outcomesIn (sinceActivation history) := by
    rw [hevents, outcomesIn_since_snoc rfl]
    exact List.append_nil _
  constructor
  case data =>
    rw [hvalues, hsnapshot]
    exact h.data
  case updated =>
    rw [hvalues, hsnapshot]
    exact h.updated
  case error =>
    rw [hsince, hsnapshot]
    exact h.error
  case active =>
    rw [hsnapshot, isActive, hactivation]
    rfl
  case loading =>
    rw [hsnapshot, isActive, hactivation]
    rfl
  case first =>
    intro t _ hcur
    rw [hactivation] at hcur
    cases hcur

theorem IsExplained.apply (h : s.IsExplained history) (ho : s.IsOrderly) {t : PollTask}
    {number due : Nat} (outcome : Except RetrievalError α)
    (found : s.task? t.generation = some t) (current : s.generation = t.generation) :
    ((s.applyOutcome t now outcome).put t.generation
      (some { t.afterFirst with phase := .waiting due })).IsExplained
      (history ++ [s.outcomeEvent number t.generation outcome].map (now, ·)) := by
  have ht : t ∈ s.tasks := mem_of_task? found
  have hcurrent : s.activation = some t.generation := ho.current t ht current.symm
  have hfirst := h.first t ht hcurrent
  have happlied : (s.outcomeEvent number t.generation outcome).outcome? = some outcome := by
    cases outcome <;> rfl
  have hstays : (s.outcomeEvent number t.generation outcome).isActivation = false := by
    cases outcome <;> rfl
  have hsince : outcomesIn (sinceActivation
      (history ++ [s.outcomeEvent number t.generation outcome].map (now, ·))) =
        outcomesIn (sinceActivation history) ++ [(now, outcome)] := by
    rw [List.map_singleton, outcomesIn_since_snoc hstays, happlied]
    rfl
  have hvalues : valuesIn (history ++ [s.outcomeEvent number t.generation outcome].map (now, ·)) =
      valuesIn history ++ (outcome.toOption.map (now, ·)).toList := by
    rw [List.map_singleton, valuesIn_append]
    cases outcome <;> rfl
  have hsnapshot : ((s.applyOutcome t now outcome).put t.generation
      (some { t.afterFirst with phase := .waiting due })).snapshot =
        s.snapshot.apply now t.beforeFirst outcome := rfl
  constructor
  case data =>
    rw [hvalues, hsnapshot]
    cases outcome with
    | ok value => simp [Snapshot.apply, Except.toOption]
    | error e => simpa [Snapshot.apply, Except.toOption] using h.data
  case updated =>
    rw [hvalues, hsnapshot]
    cases outcome with
    | ok value => simp [Snapshot.apply, Except.toOption]
    | error e => simpa [Snapshot.apply, Except.toOption] using h.updated
  case error =>
    rw [hsince, hsnapshot]
    cases outcome <;> simp [Snapshot.apply, failureMessage?]
  case active =>
    rw [hsnapshot]
    cases outcome <;> exact h.active
  case loading =>
    -- The flag is cleared by the first retrieval, and was clear after it.
    have hcleared : (!t.beforeFirst && s.snapshot.initialLoading) = false := by
      rw [hfirst, h.loading]
      cases (outcomesIn (sinceActivation history)).isEmpty <;> simp
    have hsome : (outcomesIn (sinceActivation history) ++ [(now, outcome)]).isEmpty = false := by
      simp
    rw [hsince, hsnapshot, hsome, Bool.and_false]
    cases outcome <;> exact hcleared
  case first =>
    intro u hu hcur
    have happlied : (s.applyOutcome t now outcome).IsOrderly :=
      ho.congr rfl rfl (applyOutcome_generation s t now outcome)
    rw [hsince]
    rcases (happlied.mem_put found (by simp [PollTask.afterFirst])).1 hu with hu | ⟨_, hne⟩
    · obtain rfl := Option.some.inj hu
      simp [PollTask.afterFirst]
    · exact absurd (Option.some.inj (hcur.symm.trans hcurrent)) hne

@[simp] theorem request_beforeFirst (t : PollTask) :
    t.request.beforeFirst = t.beforeFirst := by
  unfold PollTask.request
  split <;> rfl

/-- A task that is put in place of another keeps for itself whether it is before its first
retrieval. -/
theorem IsOrderly.first_of_mem_put (ho : s.IsOrderly) {t u : PollTask}
    (found : s.task? t.generation = some t) {t' : Option PollTask}
    (keeps : ∀ x ∈ t', x.generation = t.generation ∧ x.beforeFirst = t.beforeFirst)
    (hu : u ∈ (s.put t.generation t').tasks) :
    ∃ v ∈ s.tasks, v.generation = u.generation ∧ v.beforeFirst = u.beforeFirst := by
  rcases (ho.mem_put found fun x hx => (keeps x hx).1).1 hu with hu | ⟨hu, _⟩
  · exact ⟨t, mem_of_task? found, (keeps u hu).1.symm, (keeps u hu).2.symm⟩
  · exact ⟨u, hu, rfl, rfl⟩

theorem IsExplained.move (h : s.IsExplained history) (ho : s.IsOrderly)
    (hm : Move now s s' es) : s'.IsExplained (history ++ es.map (now, ·)) := by
  cases hm with
  | settings => exact h.quiet rfl rfl (fun t ht => ⟨t, ht, rfl, rfl⟩) (Or.inl rfl)
  | activate => exact h.activate ho
  | deactivate active => exact h.deactivate active
  | refresh active =>
    refine h.quiet ?_ ?_ ?_ (Or.inl rfl)
    · simp [Subscription.refresh, active, snapshot]
    · simp [Subscription.refresh, active]
    · intro t' ht'
      rw [tasks_refresh active] at ht'
      obtain ⟨t, ht, rfl⟩ := List.mem_map.1 ht'
      exact ⟨t, ht, by split <;> simp, by split <;> simp⟩
  | leave found =>
    exact h.quiet rfl rfl (fun _ hu => ho.first_of_mem_put found (by simp) hu) (Or.inl rfl)
  | wait found =>
    exact h.quiet rfl rfl (fun _ hu => ho.first_of_mem_put found (by simp) hu) (Or.inl rfl)
  | start found =>
    have hcounted : s.countStart.IsOrderly := ho.congr rfl rfl rfl
    exact h.quiet rfl rfl (fun _ hu => hcounted.first_of_mem_put found (by simp) hu)
      (Or.inr ⟨_, rfl, rfl, rfl⟩)
  | apply outcome found _ current => exact h.apply ho outcome found current
  | discard found =>
    exact h.quiet rfl rfl (fun _ hu => ho.first_of_mem_put found (by simp) hu)
      (Or.inr ⟨_, rfl, rfl, rfl⟩)

theorem isExplained_life (options : PollOptions) (born : Nat)
    (actions : List (Nat × PollAction α)) :
    (life options born actions).1.IsExplained (life options born actions).2 :=
  life_induct IsBlank.isExplained (fun ho h hm => h.move ho hm) options born actions


-- ---------------------------------------------------------------------------
-- Which outcomes are applied
-- ---------------------------------------------------------------------------

theorem outcomes_of_not_applied (h : ∀ e ∈ es, e.applied? = none) :
    es.filterMap (·.outcome?) = [] :=
  List.filterMap_eq_nil_iff.2 fun e he => e.outcome?_eq_none_iff.2 (h e he)

/-- The outcome of a retrieval in flight is applied if its activation is the snapshot's. -/
theorem outcomes_settle (hr : s.IsRecorded history) (ho : s.IsOrderly) {n g : Nat}
    (flight : InFlight history n g) (outcome : Except RetrievalError α) :
    (s.settle now n outcome).2.filterMap (·.outcome?) =
      if g = s.generation then [outcome] else [] := by
  obtain ⟨t, ht, busy, rfl⟩ := (hr.inFlight n g).1 flight
  obtain ⟨since, due, hp⟩ := PollTask.retrieval?_eq_some_iff.1 busy
  by_cases hg : s.generation = t.generation
  · have happlied : (s.outcomeEvent n t.generation outcome).outcome? = some outcome := by
      cases outcome <;> rfl
    have hrest : ((s.applyOutcome t now outcome).proceed t.afterFirst now due).2.2.filterMap
        (·.outcome?) = [] :=
      outcomes_of_not_applied fun _ he => applied?_of_mem_proceed he
    rw [settle_of_current hr ho ht hp hg]
    simp [hg, happlied, hrest]
  · rw [settle_of_stale hr ho ht hp hg, if_neg (Ne.symm hg)]
    rfl

/-- Nothing else applies an outcome. -/
theorem outcomes_eq_nil (hr : s.IsRecorded history) (a : PollAction α)
    (none : ∀ n outcome, a = .settle n outcome → ∀ g, ¬InFlight history n g) :
    (s.act now a).2.filterMap (·.outcome?) = [] := by
  cases a with
  | settle n outcome =>
    simp [act, settle_of_not_inFlight hr (none n outcome rfl)]
  | turn generation => exact outcomes_of_not_applied fun e he => applied?_of_mem_turn he
  | _ =>
    exact outcomes_of_not_applied fun e he =>
      PollEvent.applied?_eq_none (areQuiet_owner s now (by trivial) e he)


-- ---------------------------------------------------------------------------
-- The instant of the last value
-- ---------------------------------------------------------------------------

theorem time_of_mem_run {s : Subscription α} {actions : List (Nat × PollAction α)}
    {x : Nat × PollEvent α} (h : x ∈ (s.run actions).2) : x.1 ∈ actions.map (·.1) := by
  induction actions generalizing s with
  | nil => cases h
  | cons step rest ih =>
    obtain ⟨now, a⟩ := step
    rcases List.mem_append.1 h with h | h
    · obtain ⟨e, _, rfl⟩ := List.mem_map.1 h
      exact List.mem_cons_self
    · exact List.mem_cons_of_mem _ (ih h)

theorem time_of_mem_life {options : PollOptions} {born : Nat}
    {actions : List (Nat × PollAction α)} {x : Nat × PollEvent α}
    (h : x ∈ (life options born actions).2) : x.1 ∈ born :: actions.map (·.1) := by
  rcases List.mem_append.1 h with h | h
  · obtain ⟨e, _, rfl⟩ := List.mem_map.1 h
    exact List.mem_cons_self
  · exact List.mem_cons_of_mem _ (time_of_mem_run h)

theorem time_of_mem_valuesIn {v : Nat × α} (h : v ∈ valuesIn history) :
    ∃ x ∈ history, x.1 = v.1 := by
  obtain ⟨o, ho, hv⟩ := List.mem_filterMap.1 h
  obtain ⟨x, hx, hxo⟩ := List.mem_filterMap.1 ho
  obtain ⟨_, _, rfl⟩ := Option.map_eq_some_iff.1 hv
  obtain ⟨_, _, rfl⟩ := Option.map_eq_some_iff.1 hxo
  exact ⟨x, hx, rfl⟩

/-- While the clock does not go back, neither does the instant of the last value. -/
theorem lastUpdated_le {options : PollOptions} {born : Nat}
    {before later : List (Nat × PollAction α)}
    (clock : (born :: (before ++ later).map (·.1)).Pairwise (· ≤ ·)) {instant : Nat}
    (updated : (life options born before).1.snapshot.lastUpdated = some instant) :
    ∃ at', (life options born (before ++ later)).1.snapshot.lastUpdated = some at' ∧
      instant ≤ at' := by
  rw [(isExplained_life options born before).updated, Option.map_eq_some_iff] at updated
  obtain ⟨v, hlast, rfl⟩ := updated
  rw [(isExplained_life options born (before ++ later)).updated, life_append, valuesIn_append,
    List.getLast?_append, hlast]
  cases hlater : (valuesIn ((life options born before).1.run later).2).getLast? with
  | none => exact ⟨v.1, rfl, Nat.le_refl _⟩
  | some v' =>
    refine ⟨v'.1, rfl, ?_⟩
    obtain ⟨x, hx, hxv⟩ := time_of_mem_valuesIn (List.mem_of_getLast? hlast)
    obtain ⟨x', hx', hxv'⟩ := time_of_mem_valuesIn (List.mem_of_getLast? hlater)
    rw [List.map_append, ← List.cons_append, List.pairwise_append] at clock
    rw [← hxv, ← hxv']
    exact clock.2.2 _ (time_of_mem_life hx) _ (time_of_mem_run hx')


-- ---------------------------------------------------------------------------
-- The meaning of a snapshot
-- ---------------------------------------------------------------------------

/-- In every life: the data is the last value that was applied, however long ago and whatever
failed, ended or began since; the instant beside it is that of its application, and does not go
back while the clock does not; the error is the message of the last outcome since the latest
activation began, if that is a failure; and the loading flag is set while the subscription is
active without an outcome in its current activation. What is applied are the outcomes of those
retrievals that settle in the generation of the snapshot, and nothing else. -/
theorem snapshot_tells_history (options : PollOptions) (born : Nat)
    (actions : List (Nat × PollAction α)) :
    let s := (life options born actions).1
    let values := valuesIn (life options born actions).2
    let recent := outcomesIn (sinceActivation (life options born actions).2)
    s.snapshot.data = values.getLast?.map (·.2) ∧
    s.snapshot.lastUpdated = values.getLast?.map (·.1) ∧
    s.snapshot.lastUpdated.isSome = s.snapshot.data.isSome ∧
    ((born :: actions.map (·.1)).Pairwise (· ≤ ·) →
      ∀ before later, actions = before ++ later → ∀ instant,
        (life options born before).1.snapshot.lastUpdated = some instant →
        ∃ instant', s.snapshot.lastUpdated = some instant' ∧ instant ≤ instant') ∧
    (∀ message, s.snapshot.error = some message ↔
      ∃ instant e, recent.getLast? = some (instant, .error e) ∧ message = e.message) ∧
    (s.snapshot.initialLoading = true ↔ s.isActive = true ∧ recent = []) ∧
    s.snapshot.active = s.isActive ∧
    (∀ before now a later, actions = before ++ (now, a) :: later →
      let s := (life options born before).1
      let history := (life options born before).2
      let applied := (s.act now a).2.filterMap (·.outcome?)
      (∀ n g outcome, a = .settle n outcome → InFlight history n g →
        applied = if g = s.generation then [outcome] else []) ∧
      ((∀ n outcome, a = .settle n outcome → ∀ g, ¬InFlight history n g) → applied = [])) := by
  intro s values recent
  have h : s.IsExplained (life options born actions).2 := isExplained_life options born actions
  refine ⟨h.data, h.updated, ?_, ?_, ?_, ?_, h.active, ?_⟩
  · rw [h.updated, h.data, Option.isSome_map, Option.isSome_map]
  · rintro clock before later rfl instant updated
    exact lastUpdated_le clock updated
  · intro message
    rw [h.error, Option.bind_eq_some_iff]
    constructor
    · rintro ⟨⟨instant, outcome⟩, hlast, hmessage⟩
      obtain ⟨e, rfl, rfl⟩ := failureMessage?_eq_some_iff.1 hmessage
      exact ⟨instant, e, hlast, rfl⟩
    · rintro ⟨instant, e, hlast, rfl⟩
      exact ⟨(instant, .error e), hlast, rfl⟩
  · rw [h.loading, Bool.and_eq_true, List.isEmpty_iff]
  · intro before now a later _ s history applied
    have hr : s.IsRecorded history := isRecorded_life options born before
    have ho : s.IsOrderly := isOrderly_life options born before
    refine ⟨?_, outcomes_eq_nil hr a⟩
    rintro n g outcome rfl flight
    exact outcomes_settle hr ho flight outcome

/-- Polling starts over while a retrieval is in flight. Its outcome comes too late, and the
retrieval of the new activation fails: the data is still that of the first activation. -/
theorem snapshot_tells_history_of_failure :
    let ms := millisecond
    let options : PollOptions := { interval := ⟨10 * ms, by decide⟩ }
    let lost : RetrievalError := .failed "connection lost"
    let before : List (Nat × PollAction Nat) := [(0, .turn 1), (2 * ms, .settle 1 (.ok 7))]
    let late : List (Nat × PollAction Nat) :=
      [(10 * ms, .turn 1), (11 * ms, .setResyncKey (some "b")), (11 * ms, .turn 3)]
    let later : List (Nat × PollAction Nat) :=
      late ++ (12 * ms, .settle 2 (.ok 8)) :: [(13 * ms, .settle 3 (.error lost))]
    let s := (life options 0 (before ++ later)).1
    let stale := (life options 0 (before ++ late)).1
    let recent := outcomesIn (sinceActivation (life options 0 (before ++ later)).2)
    s.snapshot.data = some 7 ∧
      (∃ instant e, recent.getLast? = some (instant, .error e) ∧ e.message = lost.message) ∧
      (∃ instant, s.snapshot.lastUpdated = some instant ∧ 2 * ms ≤ instant) ∧
      (stale.act (12 * ms) (.settle 2 (.ok 8))).2.filterMap (·.outcome?) = [] := by
  intro ms options lost before late later s stale recent
  obtain ⟨hdata, _, _, hclock, herror, _, _, happlied⟩ :=
    snapshot_tells_history options 0 (before ++ later)
  refine ⟨?_, ?_, ?_, ?_⟩
  · rw [hdata]
    decide +kernel
  · obtain ⟨instant, e, hlast, hmessage⟩ := (herror lost.message).1 (by decide +kernel)
    exact ⟨instant, e, hlast, hmessage.symm⟩
  · exact hclock (by decide +kernel) before later rfl (2 * ms) (by decide +kernel)
  · have hflight : InFlight (life options 0 (before ++ late)).2 2 1 :=
      ⟨by decide +kernel, by decide +kernel⟩
    have hpast : 1 ≠ stale.generation := by decide +kernel
    have hsplit : before ++ later = before ++ late ++ (12 * ms, .settle 2 (.ok 8)) ::
        [(13 * ms, .settle 3 (.error lost))] :=
      (List.append_assoc _ _ _).symm
    rw [(happlied (before ++ late) (12 * ms) _ _ hsplit).1 2 1 (.ok 8) rfl hflight]
    exact if_neg hpast

end Subscription

end DashboardClient
