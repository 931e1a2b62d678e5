import DashboardClient.Proofs.Polling.Live
import DashboardClient.Proofs.Polling.SnapshotMeaning
import DashboardClient.Proofs.Polling.TickGrid

/-!
# Requests to refresh

The task of an activation keeps the requests that it has not heeded yet. A tick may come before
them any number of times, but what is kept stays until a retrieval starts on request. While the
task is inside a retrieval it keeps at most one, however often it is asked. So no request is lost,
and what starts on request is paid for by requests that were taken.
-/

namespace DashboardClient

variable {α : Type}

-- ---------------------------------------------------------------------------
-- What is asked and what starts on request
-- ---------------------------------------------------------------------------

/-- The retrievals that start on request. -/
def onRequest (starts : List PollStart) : List PollStart :=
  starts.filter (·.trigger = .refresh)

theorem onRequest_append (first rest : List PollStart) :
    onRequest (first ++ rest) = onRequest first ++ onRequest rest :=
  List.filter_append ..

namespace Subscription

/-- The step is a request that an activation takes. -/
def takes (s : Subscription α) (g : Nat) : PollAction α → Bool
  | .refresh => s.acceptsRefresh && s.activation == some g
  | _ => false

/-- The times of the requests that an activation takes from `s` on. -/
def requestsFrom (s : Subscription α) (g : Nat) : List (Nat × PollAction α) → List Nat
  | [] => []
  | (now, a) :: rest =>
    let later := (s.act now a).1.requestsFrom g rest
    if s.takes g a then now :: later else later

theorem requestsFrom_append (s : Subscription α) (g : Nat)
    (first rest : List (Nat × PollAction α)) :
    s.requestsFrom g (first ++ rest) =
      s.requestsFrom g first ++ (s.run first).1.requestsFrom g rest := by
  induction first generalizing s with
  | nil => rfl
  | cons step first ih =>
    simp only [List.cons_append, requestsFrom, run, ih]
    split <;> rfl

theorem length_requestsFrom_singleton (s : Subscription α) (g now : Nat) (a : PollAction α) :
    (s.requestsFrom g [(now, a)]).length = if s.takes g a then 1 else 0 := by
  simp only [requestsFrom]
  split <;> rfl

end Subscription


-- ---------------------------------------------------------------------------
-- The task of an activation
-- ---------------------------------------------------------------------------

/-- What one step does to the task of an activation while that is the current one, with the
retrievals that the task starts and the number of requests that it takes. -/
inductive TaskStep (period now : Nat) :
    Option PollTask → Option PollTask → List PollStart → Nat → Prop where
  | stay (t : Option PollTask) : TaskStep period now t t [] 0
  | begin (generation : Nat) : TaskStep period now none (some { generation }) [] 0
  | stop (t : PollTask) : TaskStep period now (some t) none [] 0
  | request (t : PollTask) : TaskStep period now (some t) (some t.request) [] 1
  | start {t : PollTask} {due next refreshes : Nat} {trigger : PollTrigger} (number : Nat)
    (chooses : t.due? now = some due)
    (choice : t.choose period now due = .retrieve trigger next refreshes) :
    TaskStep period now (some t) (some { t with phase := .retrieving number now next, refreshes })
      [⟨now, number, trigger⟩] 0
  | settle {t : PollTask} {number since due : Nat} {t' : Option PollTask}
    {starts : List PollStart} (busy : t.phase = .retrieving number since due)
    (rest : TaskStep period now (some { t.afterFirst with phase := .waiting due }) t' starts 0) :
    TaskStep period now (some t) t' starts 0

/-- Where there was no task, a new one may begin; where there was one, it may go. -/
theorem TaskStep.of_replaced {period now : Nat} {t t' : Option PollTask}
    (h : t' = t ∨ t' = none ∨ t = none ∧ ∃ generation, t' = some { generation }) :
    TaskStep period now t t' [] 0 := by
  rcases h with rfl | rfl | ⟨rfl, generation, rfl⟩
  · exact .stay t'
  · cases t with
    | none => exact .stay none
    | some t => exact .stop t
  · exact .begin generation

namespace Subscription

variable {s : Subscription α} {history : List (Nat × PollEvent α)} {g now due : Nat}
  {t : PollTask} {t' : Option PollTask} {a : PollAction α}

/-- The task of an activation while that is the current one. -/
def liveTask? (s : Subscription α) (g : Nat) : Option PollTask :=
  if s.activation = some g then s.task? g else none

theorem liveTask?_of_over (h : s.activation ≠ some g) : s.liveTask? g = none :=
  if_neg h

theorem liveTask?_of_active (h : s.activation = some g) : s.liveTask? g = s.task? g :=
  if_pos h

theorem liveTask?_eq_some (h : s.liveTask? g = some t) :
    s.activation = some t.generation ∧ s.task? t.generation = some t ∧ t.generation = g := by
  unfold liveTask? at h
  split at h
  · next active =>
    obtain rfl : t.generation = g := key_of_find? h
    exact ⟨active, h, rfl⟩
  · cases h

theorem IsOrderly.liveTask?_of_mem (ho : s.IsOrderly) (ht : t ∈ s.tasks)
    (active : s.activation = some t.generation) : s.liveTask? t.generation = some t :=
  (liveTask?_of_active active).trans ((find?_eq_some_iff_mem ho.distinct).2 ht)

theorem liveTask?_activate (ho : s.IsOrderly) (g : Nat) :
    s.activate.1.liveTask? g =
      if g = s.generation + 1 then some { generation := s.generation + 1 } else none := by
  have hcurrent := current?_activate ho
  rw [current?, activation_activate, Option.bind_some] at hcurrent
  by_cases hg : g = s.generation + 1
  · subst hg
    rw [liveTask?_of_active (activation_activate s), hcurrent, if_pos rfl]
  · rw [if_neg hg]
    refine liveTask?_of_over ?_
    simpa [activation_activate] using Ne.symm hg

theorem liveTask?_deactivate (s : Subscription α) (g : Nat) :
    s.deactivate.1.liveTask? g = none :=
  liveTask?_of_over (by simp [activation_deactivate])

theorem liveTask?_refresh (s : Subscription α) (g : Nat) :
    s.refresh.liveTask? g = (s.liveTask? g).map (·.request) := by
  cases ha : s.activation with
  | none => simp [liveTask?, Subscription.refresh, ha]
  | some g' =>
    have hactivation : s.refresh.activation = some g' := by simp [Subscription.refresh, ha]
    have hcurrent := current?_refresh ha
    simp only [current?, hactivation, ha, Option.bind_some] at hcurrent
    by_cases hg : g' = g
    · subst hg
      rw [liveTask?_of_active hactivation, liveTask?_of_active ha, hcurrent]
    · rw [liveTask?_of_over (by simpa [hactivation] using hg),
        liveTask?_of_over (by simpa [ha] using hg)]
      rfl

theorem IsOrderly.liveTask?_put (ho : s.IsOrderly) (live : s.liveTask? g = some t)
    (keeps : ∀ x ∈ t', x.generation = t.generation) :
    (s.put t.generation t').liveTask? g = t' := by
  obtain ⟨active, found, rfl⟩ := liveTask?_eq_some live
  exact (if_pos active).trans (find?_replaceFirst_self ho.distinct found keeps)

theorem liveTask?_put_of_ne (keeps : ∀ x ∈ t', x.generation = t.generation)
    (hg : g ≠ t.generation) : (s.put t.generation t').liveTask? g = s.liveTask? g := by
  unfold liveTask?
  exact congrArg (ite _ · none) (find?_replaceFirst_ne keeps hg)


-- ---------------------------------------------------------------------------
-- Steps of the owner
-- ---------------------------------------------------------------------------

theorem startsOf_of_forall {es : List (PollEvent α)}
    (h : ∀ n trigger, .started n g trigger ∉ es) : startsOf g (es.map (now, ·)) = [] := by
  refine List.eq_nil_iff_forall_not_mem.2 fun x hx => ?_
  obtain ⟨e, he, heq⟩ := List.mem_map.1 (mem_startsOf_iff.1 hx)
  obtain ⟨_, rfl⟩ := Prod.mk.inj heq
  exact h _ _ he

theorem startsOf_of_owners (s : Subscription α) (now g : Nat) (owners : a.IsOwners) :
    startsOf g ((s.act now a).2.map (now, ·)) = [] :=
  startsOf_of_forall fun n trigger hmem => by cases areQuiet_owner s now owners _ hmem

/-- Whatever its owner does, a task stays, goes or begins; asking it is apart. -/
theorem liveTask?_of_owners (ho : s.IsOrderly) (owners : a.IsOwners) (other : a ≠ .refresh) :
    (s.act now a).1.liveTask? g = s.liveTask? g ∨ (s.act now a).1.liveTask? g = none ∨
      s.liveTask? g = none ∧ ∃ generation, (s.act now a).1.liveTask? g = some { generation } := by
  have hfresh {r : Subscription α} (hr : r.IsOrderly) (hle : s.generation ≤ r.generation) :
      r.activate.1.liveTask? g = none ∨
        s.liveTask? g = none ∧ ∃ generation, r.activate.1.liveTask? g = some { generation } := by
    rw [liveTask?_activate hr]
    split
    · next hg =>
      refine .inr ⟨liveTask?_of_over fun active => ?_, _, rfl⟩
      have := ho.newest g active
      omega
    · exact .inl rfl
  cases hd : s.dropped with
  | true =>
    have hkeep : (s.act now a).1 = s := by
      cases a with
      | turn => cases owners
      | settle => cases owners
      | _ => simp [act, hd]
    rw [hkeep]
    exact .inl rfl
  | false =>
    cases a with
    | turn => cases owners
    | settle => cases owners
    | refresh => exact absurd rfl other
    | drop =>
      have hdrop : (s.act now .drop).1.liveTask? g = s.deactivate.1.liveTask? g := by
        simp [act, hd, Subscription.drop, liveTask?, task?]
      rw [hdrop]
      exact .inr (.inl (liveTask?_deactivate s g))
    | setEnabled enabled =>
      rw [show s.act now (.setEnabled enabled) = s.setEnabled enabled by simp [act, hd], setEnabled]
      split
      · exact .inl rfl
      · cases enabled with
        | true => exact .inr (hfresh (ho.congr rfl rfl rfl) (Nat.le_refl _))
        | false => exact .inr (.inl (liveTask?_deactivate _ g))
    | setResyncKey key =>
      rw [show s.act now (.setResyncKey key) = s.setResyncKey key by simp [act, hd], setResyncKey]
      split
      · exact .inl rfl
      · simp only
        split
        · refine .inr (hfresh (isOrderly_deactivate (ho.congr rfl rfl rfl)) ?_)
          exact (moves_deactivate { s with resyncKey := key } now).generation_le
        · exact .inl rfl

theorem takes_refresh_iff : s.takes g (.refresh : PollAction α) = true ↔ s.activation = some g := by
  simp only [takes, acceptsRefresh, isActive, Bool.and_eq_true, beq_iff_eq, and_iff_right_iff_imp]
  intro active
  rw [active]
  rfl

/-- A request that an activation takes reaches its task. -/
theorem liveTask?_of_takes (hb : s.IsBookkept) (takes : s.takes g (.refresh : PollAction α) = true)
    (now : Nat) :
    (s.act now .refresh).1.liveTask? g = (s.liveTask? g).map (·.request) := by
  have hset : s.enabled = true ∧ s.dropped = false := by
    simpa [IsBookkept, isActive, takes_refresh_iff.1 takes] using hb
  have hafter : (s.act now .refresh).1 = s.refresh := by simp [act, hset.2]
  rw [hafter, liveTask?_refresh]

theorem taskStep_of_owners (ho : s.IsOrderly) (hb : s.IsBookkept) (owners : a.IsOwners)
    (g now : Nat) :
    TaskStep s.interval.nanos now (s.liveTask? g) ((s.act now a).1.liveTask? g)
      (startsOf g ((s.act now a).2.map (now, ·))) (if s.takes g a then 1 else 0) := by
  rw [startsOf_of_owners s now g owners]
  by_cases hask : a = .refresh
  · subst hask
    cases htakes : s.takes g (.refresh : PollAction α) with
    | true =>
      obtain ⟨t, ht, rfl⟩ := ho.attended g (takes_refresh_iff.1 htakes)
      rw [liveTask?_of_takes hb htakes, ho.liveTask?_of_mem ht (takes_refresh_iff.1 htakes)]
      exact .request t
    | false =>
      have hover : s.activation ≠ some g := fun active => by
        rw [takes_refresh_iff.2 active] at htakes
        cases htakes
      have hsame : (s.act now .refresh).1.liveTask? g = s.liveTask? g := by
        simp only [act]
        split
        · rfl
        · rw [liveTask?_refresh, liveTask?_of_over hover]
          rfl
      rw [hsame]
      exact .stay _
  · have htakes : s.takes g a = false := by
      cases a with
      | refresh => exact absurd rfl hask
      | _ => rfl
    rw [htakes]
    exact .of_replaced (liveTask?_of_owners ho owners hask)


-- ---------------------------------------------------------------------------
-- Steps of the tasks
-- ---------------------------------------------------------------------------

/-- A task that chooses waits on, or starts a retrieval. -/
theorem taskStep_proceed (current : s.generation = t.generation)
    (goes : t.stopRequested = false) (chooses : t.due? now = some due) :
    TaskStep s.interval.nanos now (some t) (s.proceed t now due).1
      (startsOf t.generation ((s.proceed t now due).2.2.map (now, ·))) 0 := by
  unfold proceed
  cases hc : t.choose s.interval.nanos now due with
  | leave =>
    rw [choose_eq_leave hc] at goes
    cases goes
  | wait =>
    rcases PollTask.cases_of_due? chooses with ⟨_, rfl⟩ | hwaiting
    · exact absurd (PollTask.lt_of_choose_wait hc) (Nat.lt_irrefl _)
    · have hsame : { t with phase := .waiting due } = t := by rw [← hwaiting]
      simp only [hsame]
      exact .stay (some t)
  | retrieve trigger next refreshes =>
    simpa [current, startsOf] using TaskStep.start (s.started + 1) chooses hc

/-- The steps of tasks do not change which activation is the current one. -/
theorem activation_of_tasks (s : Subscription α) (now : Nat) (tasks : ¬a.IsOwners) :
    (s.act now a).1.activation = s.activation := by
  cases a with
  | turn generation =>
    simp only [act, turn]
    split
    · rfl
    · split <;> rfl
  | settle number outcome =>
    simp only [act, settle]
    split
    · rfl
    · split
      · split <;> rfl
      · rfl
  | _ => exact absurd trivial tasks

theorem taskStep_turn (ho : s.IsOrderly) (live : s.liveTask? g = some t) (now g' : Nat) :
    TaskStep s.interval.nanos now (s.liveTask? g) ((s.turn now g').1.liveTask? g)
      (startsOf g ((s.turn now g').2.map (now, ·))) 0 := by
  obtain ⟨active, found, rfl⟩ := liveTask?_eq_some live
  have ht := mem_of_task? found
  cases hfound : s.task? g' with
  | none =>
    have hnothing : s.turn now g' = (s, []) := by simp [turn, hfound]
    rw [hnothing]
    exact .stay _
  | some u =>
    obtain rfl : u.generation = g' := key_of_find? hfound
    cases hdue : u.due? now with
    | none =>
      have hnothing : s.turn now u.generation = (s, []) := by
        cases hp : u.phase <;> simp [turn, hfound, PollTask.due?, hp] at hdue ⊢
      rw [hnothing]
      exact .stay _
    | some due =>
      by_cases hg : t.generation = u.generation
      · obtain rfl := ho.eq_of_generation_eq ht (mem_of_task? hfound) hg.symm
        have goes : u.stopRequested = false := by
          simpa [active] using ho.stopped u ht
        have hafter : (s.turn now u.generation).1.liveTask? u.generation =
            (s.proceed u now due).1 := by
          rw [turn_of_due? hfound hdue]
          exact ho.liveTask?_put live fun x hx => generation_of_mem_proceed hx
        rw [hafter, live, turn_of_due? hfound hdue]
        exact taskStep_proceed (ho.newest _ active).symm goes hdue
      · have hover : s.activation ≠ some u.generation := by
          simpa [active] using hg
        rw [turn_of_stopped hfound hdue ((ho.stopped u (mem_of_task? hfound)).2 hover),
          liveTask?_put_of_ne (by simp) hg]
        exact .stay _

theorem taskStep_settle (ho : s.IsOrderly) (hr : s.IsRecorded history)
    (live : s.liveTask? g = some t) (now n : Nat) (outcome : Except RetrievalError α) :
    TaskStep s.interval.nanos now (s.liveTask? g) ((s.settle now n outcome).1.liveTask? g)
      (startsOf g ((s.settle now n outcome).2.map (now, ·))) 0 := by
  obtain ⟨active, found, rfl⟩ := liveTask?_eq_some live
  have ht := mem_of_task? found
  cases hfound : s.retrieving? n with
  | none =>
    have hnothing : s.settle now n outcome = (s, []) := by simp [settle, hfound]
    rw [hnothing]
    exact .stay _
  | some u =>
    have hu : u ∈ s.tasks := List.mem_of_find?_eq_some hfound
    obtain ⟨since, due, busy⟩ : ∃ since due, u.phase = .retrieving n since due :=
      PollTask.retrieval?_eq_some_iff.1 (by simpa using List.find?_some hfound)
    by_cases hg : t.generation = u.generation
    · obtain rfl := ho.eq_of_generation_eq ht hu hg.symm
      have current : s.generation = u.generation := (ho.newest _ active).symm
      have goes : u.stopRequested = false := by
        simpa [active] using ho.stopped u ht
      let applied := s.applyOutcome u now outcome
      let back : PollTask := { u.afterFirst with phase := .waiting due }
      have happlied : applied.IsOrderly :=
        ho.congr rfl rfl (applyOutcome_generation s u now outcome)
      have hlive : applied.liveTask? u.generation = some u := live
      have hsettle : s.settle now n outcome = _ := settle_of_current hr ho ht busy current outcome
      have hafter : (s.settle now n outcome).1.liveTask? u.generation =
          (applied.proceed back now due).1 := by
        have keeps : ∀ x ∈ (applied.proceed back now due).1, x.generation = back.generation :=
          fun x hx => generation_of_mem_proceed hx
        rw [hsettle]
        exact happlied.liveTask?_put hlive keeps
      have hstarts : startsOf u.generation ((s.settle now n outcome).2.map (now, ·)) =
          startsOf u.generation ((applied.proceed back now due).2.2.map (now, ·)) := by
        rw [hsettle]
        cases outcome <;> rfl
      rw [hafter, hstarts, live]
      refine .settle busy ?_
      have hback : applied.generation = back.generation :=
        (applyOutcome_generation s u now outcome).trans current
      exact taskStep_proceed hback goes rfl
    · have stale : s.generation ≠ u.generation := by
        rw [← ho.newest _ active]
        exact hg
      rw [settle_of_stale hr ho hu busy stale, liveTask?_put_of_ne (by simp) hg]
      exact .stay _

/-- Whatever happens, the task of an activation makes one of its steps, and takes a request exactly
if the activation does. -/
theorem taskStep_act (ho : s.IsOrderly) (hb : s.IsBookkept) (hr : s.IsRecorded history)
    (now g : Nat) (a : PollAction α) :
    TaskStep s.interval.nanos now (s.liveTask? g) ((s.act now a).1.liveTask? g)
      (startsOf g ((s.act now a).2.map (now, ·))) (if s.takes g a then 1 else 0) := by
  by_cases owners : a.IsOwners
  · exact taskStep_of_owners ho hb owners g now
  · have htakes : s.takes g a = false := by
      cases a with
      | refresh => exact absurd trivial owners
      | _ => rfl
    rw [htakes]
    by_cases active : s.activation = some g
    · obtain ⟨t, ht, rfl⟩ := ho.attended g active
      have live := ho.liveTask?_of_mem ht active
      cases a with
      | turn g' => exact taskStep_turn ho live now g'
      | settle n outcome => exact taskStep_settle ho hr live now n outcome
      | _ => exact absurd trivial owners
    · have hafter := activation_of_tasks s now owners
      have hstarts : startsOf g ((s.act now a).2.map (now, ·)) = [] := by
        refine startsOf_of_forall fun n trigger hmem => ?_
        obtain ⟨hg, t, ht, rfl⟩ := started_of_mem_act hmem
        exact active (ho.current t ht hg.symm)
      rw [hstarts, liveTask?_of_over active, liveTask?_of_over (by rwa [hafter])]
      exact .stay none

end Subscription


-- ---------------------------------------------------------------------------
-- What a task keeps
-- ---------------------------------------------------------------------------

namespace PollTask

variable {t : PollTask} {period now due next refreshes : Nat} {trigger : PollTrigger}

/-- A tick leaves at most one request, and a retrieval on request takes one away. -/
theorem refreshes_of_choose_retrieve
    (h : t.choose period now due = .retrieve trigger next refreshes) :
    (trigger = .tick due ∧ refreshes = min t.refreshes 1) ∨
      (trigger = .refresh ∧ t.refreshes = refreshes + 1) := by
  unfold choose at h
  split at h
  · cases h
  · split at h
    · obtain ⟨rfl, _, rfl⟩ := PollChoice.retrieve.inj h
      exact .inl ⟨rfl, rfl⟩
    · split at h
      · obtain ⟨rfl, _, rfl⟩ := PollChoice.retrieve.inj h
        exact .inr ⟨rfl, by omega⟩
      · cases h

/-- How many requests a task can keep: one that it was handed while it waits, and one more. -/
def capacity (t : PollTask) : Nat :=
  match t.phase with
  | .waiting _ => 2
  | _ => 1

/-- The task has a retrieval before it, be it for its first tick or on request. -/
def WillRetrieve (t : PollTask) : Prop :=
  t.phase = .spawned ∨ 0 < t.refreshes

/-- As long as the task has not had its first retrieval, that is the only one that was started,
and it was started for the first tick. -/
def IsFirst (t : PollTask) (starts : List PollStart) : Prop :=
  t.beforeFirst = true → t.phase = .spawned ∨
    ∃ number since due, t.phase = .retrieving number since due ∧
      starts = [⟨since, number, .tick since⟩]

theorem refreshes_request_le (t : PollTask) : t.request.refreshes ≤ t.refreshes + 1 := by
  unfold request
  split
  · exact Nat.min_le_left _ _
  · exact Nat.le_add_left _ _

theorem refreshes_request_pos (t : PollTask) : 0 < t.request.refreshes := by
  unfold request
  split
  · exact Nat.lt_min.2 ⟨Nat.succ_pos _, Nat.two_pos⟩
  · exact Nat.one_pos

theorem refreshes_request_le_capacity (t : PollTask) :
    t.request.refreshes ≤ t.request.capacity := by
  unfold request capacity
  cases t.phase with
  | waiting due => exact Nat.min_le_right _ _
  | _ => simp

end PollTask

/-- The requests that a task keeps, if there is one. -/
def keptBy (t : Option PollTask) : Nat :=
  t.elim 0 (·.refreshes)

namespace TaskStep

variable {period now asked : Nat} {t t' : Option PollTask} {starts old : List PollStart}

/-- What starts on request and what is kept is paid for by what was kept and what is asked. -/
theorem balance (h : TaskStep period now t t' starts asked) :
    keptBy t' + (onRequest starts).length ≤ keptBy t + asked := by
  induction h with
  | stay => exact Nat.le_refl _
  | begin => exact Nat.le_refl _
  | stop => exact Nat.zero_le _
  | request t => exact t.refreshes_request_le
  | @start t due next refreshes trigger number _ choice =>
    rcases PollTask.refreshes_of_choose_retrieve choice with ⟨rfl, rfl⟩ | ⟨rfl, hkept⟩
    · exact Nat.min_le_left _ _
    · simp [keptBy, onRequest, hkept]
  | settle _ _ ih => exact ih

theorem le_capacity (h : TaskStep period now t t' starts asked)
    (before : ∀ x ∈ t, x.refreshes ≤ x.capacity) : ∀ x ∈ t', x.refreshes ≤ x.capacity := by
  induction h with
  | stay => exact before
  | begin => simp
  | stop => simp
  | request t => simpa using t.refreshes_request_le_capacity
  | @start t due next refreshes trigger number chooses choice =>
    have hbefore := before t rfl
    rintro x ⟨⟩
    show refreshes ≤ 1
    rcases PollTask.refreshes_of_choose_retrieve choice with ⟨_, rfl⟩ | ⟨_, hkept⟩
    · exact Nat.min_le_right _ _
    · have hcapacity : t.capacity ≤ 2 := by
        unfold PollTask.capacity
        split <;> decide
      omega
  | @settle t number since due t' starts busy _ ih =>
    refine ih ?_
    rintro x ⟨⟩
    have hbefore := before t rfl
    simp only [PollTask.capacity, busy] at hbefore
    exact Nat.le_succ_of_le hbefore

/-- A task that will retrieve starts a retrieval, goes, or still will. -/
theorem willRetrieve (h : TaskStep period now t t' starts asked)
    (before : ∀ x ∈ t, x.WillRetrieve) : starts ≠ [] ∨ ∀ x ∈ t', x.WillRetrieve := by
  induction h with
  | stay => exact .inr before
  | begin =>
    refine .inr ?_
    rintro x ⟨⟩
    exact .inl rfl
  | stop => exact .inr (by simp)
  | request t =>
    refine .inr ?_
    rintro x ⟨⟩
    exact .inr t.refreshes_request_pos
  | start => exact .inl (by simp)
  | settle busy _ ih =>
    refine ih ?_
    rintro x ⟨⟩
    rcases before _ rfl with hspawned | hkept
    · rw [busy] at hspawned
      cases hspawned
    · exact .inr hkept

theorem isFirst (h : TaskStep period now t t' starts asked)
    (fresh : ∀ x ∈ t, x.phase = .spawned → old = [])
    (before : ∀ x ∈ t, x.IsFirst old) : ∀ x ∈ t', x.IsFirst (old ++ starts) := by
  induction h with
  | stay => simpa using before
  | begin =>
    rintro x ⟨⟩ _
    exact .inl rfl
  | stop => simp
  | request t =>
    rintro x ⟨⟩ hfirst
    have hbefore : t.beforeFirst = true := by
      unfold PollTask.request at hfirst
      split at hfirst <;> exact hfirst
    simpa using before t rfl hbefore
  | @start t due next refreshes trigger number chooses choice =>
    rintro x ⟨⟩ hfirst
    rcases before t rfl hfirst with hspawned | ⟨n, since, due', hbusy, _⟩
    · have hdue : due = now := by simpa [PollTask.due?, hspawned, eq_comm] using chooses
      subst hdue
      rcases PollTask.cases_of_choose_retrieve choice with ⟨_, rfl, _⟩ | ⟨hearly, _⟩
      · exact .inr ⟨number, due, next, rfl, by rw [fresh t rfl hspawned, List.nil_append]⟩
      · exact absurd hearly (Nat.lt_irrefl _)
    · simp [PollTask.due?, hbusy] at chooses
  | settle _ _ ih =>
    refine ih ?_ ?_
    · rintro x ⟨⟩ hspawned
      cases hspawned
    · rintro x ⟨⟩ hfirst
      cases hfirst

end TaskStep


-- ---------------------------------------------------------------------------
-- Lives
-- ---------------------------------------------------------------------------

namespace Subscription

variable {s : Subscription α} {g now : Nat} {t : PollTask}

theorem taskStep_life (options : PollOptions) (born : Nat) (actions : List (Nat × PollAction α))
    (g now : Nat) (a : PollAction α) :
    TaskStep options.interval.nanos now ((life options born actions).1.liveTask? g)
      (((life options born actions).1.act now a).1.liveTask? g)
      (startsOf g (((life options born actions).1.act now a).2.map (now, ·)))
      (if (life options born actions).1.takes g a then 1 else 0) := by
  rw [← interval_life options born actions]
  exact taskStep_act (isOrderly_life options born actions) (isBookkept_life options born actions)
    (isRecorded_life options born actions) now g a

theorem liveTask?_new (options : PollOptions) (born g : Nat) :
    (life (α := α) options born []).1.liveTask? g = none ∨
      ∃ generation, (life (α := α) options born []).1.liveTask? g = some { generation } := by
  show (new options : Subscription α × List (PollEvent α)).1.liveTask? g = none ∨
    ∃ generation, (new options : Subscription α × List (PollEvent α)).1.liveTask? g =
      some { generation }
  let blank : Subscription α :=
    { interval := options.interval, enabled := options.enabled, resyncKey := options.resyncKey }
  have hblank : blank.IsBlank := ⟨rfl, rfl, rfl, rfl⟩
  unfold new
  simp only
  split
  · have hactivate := liveTask?_activate hblank.isOrderly g
    split at hactivate
    · exact .inr ⟨_, hactivate⟩
    · exact .inl hactivate
  · exact .inl (liveTask?_of_over (by simp))

theorem keptBy_new (options : PollOptions) (born g : Nat) :
    keptBy ((life (α := α) options born []).1.liveTask? g) = 0 := by
  rcases liveTask?_new (α := α) options born g with h | ⟨_, h⟩ <;> rw [h] <;> rfl

theorem startsOf_new (options : PollOptions) (born g : Nat) :
    startsOf g (life (α := α) options born []).2 = [] := by
  have hnew : (life (α := α) options born []).2 = (new options).2.map (born, ·) :=
    List.append_nil _
  have hquiet : AreQuiet (new options : Subscription α × List (PollEvent α)).2 := by
    unfold new
    simp only
    split
    · exact areQuiet_activate _
    · exact areQuiet_nil
  rw [hnew]
  exact startsOf_of_forall fun n trigger hmem => by cases hquiet _ hmem

/-- From any time on, what an activation starts on request is paid for by what its task keeps at
that time and the requests that it takes later. -/
theorem balance_run (options : PollOptions) (born : Nat)
    (before after : List (Nat × PollAction α)) (g : Nat) :
    keptBy ((life options born (before ++ after)).1.liveTask? g) +
        (onRequest (startsOf g ((life options born before).1.run after).2)).length ≤
      keptBy ((life options born before).1.liveTask? g) +
        ((life options born before).1.requestsFrom g after).length := by
  induction after using List.reverseRecOn with
  | nil => simp [run, startsOf, onRequest]
  | append_singleton after step ih =>
    obtain ⟨now, a⟩ := step
    have hstep := (taskStep_life options born (before ++ after) g now a).balance
    have hstate : ((life options born before).1.run after).1 =
        (life options born (before ++ after)).1 := by rw [life_append]
    rw [← List.append_assoc, life_snoc, run_append, requestsFrom_append, hstate]
    simp only [run, List.append_nil, startsOf_append, onRequest_append, List.length_append,
      length_requestsFrom_singleton] at hstep ⊢
    omega

theorem le_capacity_life (options : PollOptions) (born : Nat)
    (actions : List (Nat × PollAction α)) (g : Nat) :
    ∀ t ∈ (life options born actions).1.liveTask? g, t.refreshes ≤ t.capacity := by
  induction actions using List.reverseRecOn with
  | nil => rcases liveTask?_new (α := α) options born g with h | ⟨_, h⟩ <;> simp [h]
  | append_singleton actions step ih =>
    rw [life_snoc]
    exact (taskStep_life options born actions g step.1 step.2).le_capacity ih

theorem isFirst_life (options : PollOptions) (born : Nat) (actions : List (Nat × PollAction α))
    (g : Nat) :
    ∀ t ∈ (life options born actions).1.liveTask? g,
      t.IsFirst (startsOf g (life options born actions).2) := by
  induction actions using List.reverseRecOn with
  | nil =>
    intro t ht _
    rcases liveTask?_new (α := α) options born g with h | ⟨_, h⟩
    · cases h.symm.trans ht
    · obtain rfl := Option.some.inj (h.symm.trans ht)
      exact .inl rfl
  | append_singleton actions step ih =>
    rw [life_snoc, startsOf_append]
    refine (taskStep_life options born actions g step.1 step.2).isFirst (fun t ht hp => ?_) ih
    obtain ⟨active, found, rfl⟩ := liveTask?_eq_some ht
    have htimer := (isOrderly_life options born actions).timer_current found active
    exact (followsSchedule_life options born actions _).fresh (.inr (hp ▸ htimer))

/-- A task that will retrieve does so, unless its activation ends first. -/
theorem willRetrieve_run (options : PollOptions) (born : Nat)
    (before after : List (Nat × PollAction α)) (g : Nat)
    (will : ∀ t ∈ (life options born before).1.liveTask? g, t.WillRetrieve) :
    startsOf g ((life options born before).1.run after).2 ≠ [] ∨
      ∀ t ∈ (life options born (before ++ after)).1.liveTask? g, t.WillRetrieve := by
  induction after using List.reverseRecOn with
  | nil => exact .inr (by simpa using will)
  | append_singleton after step ih =>
    obtain ⟨now, a⟩ := step
    have hstate : ((life options born before).1.run after).1 =
        (life options born (before ++ after)).1 := by rw [life_append]
    rw [← List.append_assoc, life_snoc, run_append, hstate, startsOf_append]
    rcases ih with hstarted | hwill
    · exact .inl fun hnone => hstarted (List.append_eq_nil_iff.1 hnone).1
    · rcases (taskStep_life options born (before ++ after) g now a).willRetrieve hwill with h | h
      · refine .inl fun hnone => h ?_
        simpa [run] using (List.append_eq_nil_iff.1 hnone).2
      · exact .inr h

/-- A task that waits with nothing to do is that of the current activation, and keeps nothing. -/
theorem IsOrderly.not_willRetrieve (ho : s.IsOrderly) (ht : t ∈ s.tasks)
    (timing : t.isTiming = true) (rests : t.isReady now = false) :
    s.liveTask? t.generation = some t ∧ ¬t.WillRetrieve := by
  cases hp : t.phase with
  | spawned => simp [PollTask.isReady, hp] at rests
  | retrieving => simp [PollTask.isTiming, PollTask.retrieval?, hp] at timing
  | waiting due =>
    simp only [PollTask.isReady, hp, Bool.or_eq_false_iff, decide_eq_false_iff_not] at rests
    have active : s.activation = some t.generation := by
      by_contra hover
      rw [(ho.stopped t ht).2 hover] at rests
      cases rests.1.1
    exact ⟨ho.liveTask?_of_mem ht active, by simpa [PollTask.WillRetrieve, hp] using rests.2⟩

/-- While a retrieval of it is in flight, an activation keeps at most one request, however many it
took. -/
theorem keptBy_le_one_of_inFlight (options : PollOptions) (born : Nat)
    (actions : List (Nat × PollAction α)) {n g : Nat}
    (flight : InFlight (life options born actions).2 n g) :
    keptBy ((life options born actions).1.liveTask? g) ≤ 1 := by
  obtain ⟨t, ht, hbusy, rfl⟩ := ((isRecorded_life options born actions).inFlight n g).1 flight
  by_cases active : (life options born actions).1.activation = some t.generation
  · have live := (isOrderly_life options born actions).liveTask?_of_mem ht active
    have hcapacity := le_capacity_life options born actions _ t live
    obtain ⟨since, due, hp⟩ := PollTask.retrieval?_eq_some_iff.1 hbusy
    simp only [PollTask.capacity, hp] at hcapacity
    rw [live]
    exact hcapacity
  · rw [liveTask?_of_over active]
    exact Nat.zero_le _

/-- While nothing was applied since the activation began, its first retrieval, for its first tick,
is the only one that it started. -/
theorem startsOf_of_loading (options : PollOptions) (born : Nat)
    (actions : List (Nat × PollAction α)) {now n : Nat} {a : PollAction α} {e : PollEvent α}
    (mem : e ∈ ((life options born actions).1.act now a).2) (applied : e.applied? = some n)
    (loading : (life options born actions).1.snapshot.initialLoading = true) :
    ∃ time, startsOf (life options born actions).1.generation (life options born actions).2 =
      [⟨time, n, .tick time⟩] := by
  have ho := isOrderly_life options born actions
  have hr := isRecorded_life options born actions
  have hexplained := isExplained_life options born actions
  obtain ⟨outcome, rfl, _⟩ := applied?_act.1 ⟨e, mem, applied⟩
  cases hfound : (life options born actions).1.retrieving? n with
  | none => simp [act, settle, hfound] at mem
  | some t =>
    have ht : t ∈ (life options born actions).1.tasks := List.mem_of_find?_eq_some hfound
    obtain ⟨since, due, busy⟩ : ∃ since due, t.phase = .retrieving n since due :=
      PollTask.retrieval?_eq_some_iff.1 (by simpa using List.find?_some hfound)
    have current : (life options born actions).1.generation = t.generation := by
      by_contra stale
      rw [act, settle_of_stale hr ho ht busy stale, List.mem_singleton] at mem
      subst mem
      cases applied
    have active := ho.current t ht current.symm
    have hfirst : t.beforeFirst = true := by
      rw [hexplained.loading, Bool.and_eq_true] at loading
      rw [hexplained.first t ht active, loading.2]
    rcases isFirst_life options born actions _ t (ho.liveTask?_of_mem ht active) hfirst with
      hspawned | ⟨number, time, _, hphase, hstarts⟩
    · rw [busy] at hspawned
      cases hspawned
    · obtain ⟨rfl, rfl, _⟩ := PollPhase.retrieving.inj (busy.symm.trans hphase)
      exact ⟨since, current ▸ hstarts⟩


-- ---------------------------------------------------------------------------
-- Requests are neither lost nor multiplied
-- ---------------------------------------------------------------------------

/-- For every activation of every life: where its task waits with nothing to do, each request that
the activation took has been followed by the start of a retrieval of it. However many requests it
takes while a retrieval is in flight, they lead to one retrieval together: what starts on request
from there on exceeds what is asked from there on by one at most. Over the whole activation no more
retrievals start on request than requests were taken. The first retrieval starts for the first
tick, and it is the one that ends the loading. -/
theorem refresh_neither_lost_nor_multiplied (options : PollOptions) (born : Nat)
    (actions : List (Nat × PollAction α)) (g : Nat) :
    let s := (life options born actions).1
    let starts := startsOf g (life options born actions).2
    (∀ before now after, actions = before ++ (now, .refresh) :: after →
      (life options born before).1.takes g .refresh = true →
      ∀ t ∈ s.tasks, t.generation = g → t.isTiming = true → ∀ later, t.isReady later = false →
        startsOf g ((life options born (before ++ [(now, .refresh)])).1.run after).2 ≠ []) ∧
    (∀ before after n, actions = before ++ after → InFlight (life options born before).2 n g →
      (onRequest (startsOf g ((life options born before).1.run after).2)).length ≤
        1 + ((life options born before).1.requestsFrom g after).length) ∧
    (onRequest starts).length ≤ ((life options born []).1.requestsFrom g actions).length ∧
    (∀ first ∈ starts.head?, first.trigger = .tick first.time) ∧
    (∀ before now a after, actions = before ++ (now, a) :: after →
      ∀ e ∈ ((life options born before).1.act now a).2, ∀ n, e.applied? = some n →
        (life options born before).1.snapshot.initialLoading = true →
        ∃ time, startsOf (life options born before).1.generation (life options born before).2 =
          [⟨time, n, .tick time⟩]) := by
  refine ⟨?_, ?_, ?_, (followsSchedule_life options born actions g).opens, ?_⟩
  · rintro before now after rfl takes t ht rfl timing later rests hnone
    have hwill : ∀ x ∈ (life options born (before ++ [(now, .refresh)])).1.liveTask? t.generation,
        x.WillRetrieve := by
      rw [life_snoc, liveTask?_of_takes (isBookkept_life options born before) takes]
      intro x hx
      obtain ⟨u, _, rfl⟩ := Option.map_eq_some_iff.1 hx
      exact .inr u.refreshes_request_pos
    have hlive := (isOrderly_life options born _).not_willRetrieve ht timing rests
    rw [List.append_cons] at hlive
    rcases willRetrieve_run options born _ after t.generation hwill with hstarted | hstill
    · exact hstarted hnone
    · exact hlive.2 (hstill t hlive.1)
  · rintro before after n rfl flight
    have hbalance := balance_run options born before after g
    have hkept := keptBy_le_one_of_inFlight options born before flight
    omega
  · have hbalance := balance_run options born [] actions g
    have hnew := keptBy_new (α := α) options born g
    have hstarts : startsOf g (life options born actions).2 =
        startsOf g ((life options born []).1.run actions).2 := by
      rw [← List.nil_append actions, life_append, startsOf_append, startsOf_new]
      rfl
    rw [hstarts]
    omega
  · rintro before now a after rfl e mem n applied loading
    exact startsOf_of_loading options born before mem applied loading

/-- Two requests come while the first retrieval is in flight and lead to one retrieval, after a
tick that is late by then. Two more come while the task waits, and each of them is heeded. -/
theorem refresh_when_slow_and_when_idle :
    let ms := millisecond
    let options : PollOptions := { interval := ⟨10 * ms, by decide⟩ }
    let slow : List (Nat × PollAction Nat) :=
      [(0, .refresh), (0, .turn 1), (2 * ms, .refresh), (3 * ms, .refresh)]
    let later : List (Nat × PollAction Nat) :=
      [(12 * ms, .settle 1 (.ok 1)), (13 * ms, .settle 2 (.ok 2)), (14 * ms, .settle 3 (.ok 3)),
       (15 * ms, .refresh), (16 * ms, .refresh), (17 * ms, .turn 1), (18 * ms, .settle 4 (.ok 4)),
       (19 * ms, .settle 5 (.ok 5))]
    let actions := slow ++ later
    startsOf 1 (life options 0 actions).2 =
        [⟨0, 1, .tick 0⟩, ⟨12 * ms, 2, .tick (10 * ms)⟩, ⟨13 * ms, 3, .refresh⟩,
         ⟨17 * ms, 4, .refresh⟩, ⟨18 * ms, 5, .refresh⟩] ∧
      startsOf 1 ((life options 0 (slow.take 3)).1.run (actions.drop 3)).2 ≠ [] ∧
      (onRequest (startsOf 1 ((life options 0 slow).1.run later).2)).length ≤ 1 + 2 ∧
      (onRequest (startsOf 1 (life options 0 actions).2)).length ≤ 5 ∧
      ∃ time, startsOf (life options 0 slow).1.generation (life options 0 slow).2 =
        [⟨time, 1, .tick time⟩] := by
  intro ms options slow later actions
  have hstarts : startsOf 1 (life options 0 actions).2 =
      [⟨0, 1, .tick 0⟩, ⟨12 * ms, 2, .tick (10 * ms)⟩, ⟨13 * ms, 3, .refresh⟩,
       ⟨17 * ms, 4, .refresh⟩, ⟨18 * ms, 5, .refresh⟩] := by
    decide +kernel
  have htask : ({ generation := 1, phase := .waiting (20 * ms), beforeFirst := false } : PollTask) ∈
      (life options 0 actions).1.tasks := by
    decide +kernel
  have hflight : InFlight (life options 0 slow).2 1 1 := by
    constructor <;> decide +kernel
  have hlater : ((life options 0 slow).1.requestsFrom 1 later).length = 2 := by
    decide +kernel
  have hasked : ((life options 0 []).1.requestsFrom 1 actions).length = 5 := by
    decide +kernel
  obtain ⟨hlost, hburst, htotal, _, hfirst⟩ :=
    refresh_neither_lost_nor_multiplied options 0 actions 1
  refine ⟨hstarts, ?_, ?_, ?_, ?_⟩
  · have hsplit : actions = slow.take 2 ++ (2 * ms, .refresh) :: actions.drop 3 := by
      simp [actions, slow, later]
    exact hlost (slow.take 2) (2 * ms) (actions.drop 3) hsplit (by decide +kernel) _ htask rfl rfl
      (19 * ms) (by decide +kernel)
  · exact hlater ▸ hburst slow later 1 rfl hflight
  · exact hasked ▸ htotal
  · obtain ⟨e, he, happlied⟩ :
        ∃ e ∈ ((life options 0 slow).1.act (12 * ms) (.settle 1 (.ok 1))).2,
          e.applied? = some 1 := by
      decide +kernel
    exact hfirst slow (12 * ms) (.settle 1 (.ok 1)) later.tail rfl e he 1 happlied
      (by decide +kernel)

end Subscription

end DashboardClient
