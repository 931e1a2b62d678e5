import DashboardClient.Polling.Subscription
import DashboardClient.Proofs.Keyed

/-!
# What a step of a subscription can do

Every step of a subscription, of its owner or of a task, is a chain of a few moves. What
holds at the start and is kept by each move holds in the whole life of a subscription, so
an invariant looks at one move at a time and never at the steps themselves.
-/

namespace DashboardClient

variable {α : Type}

/-- When the next tick of a task that chooses at `now` falls due. A task inside a retrieval
does not choose. -/
def PollTask.due? (t : PollTask) (now : Nat) : Option Nat :=
  match t.phase with
  | .spawned => some now
  | .waiting due => some due
  | .retrieving _ _ _ => none

namespace Subscription

/-- Put `t` in place of the task of an activation, or take that task out. -/
def put (s : Subscription α) (generation : Nat) (t : Option PollTask) : Subscription α :=
  { s with tasks := replaceFirst (·.generation == generation) t s.tasks }

/-- Give the number of the next retrieval away. -/
def countStart (s : Subscription α) : Subscription α :=
  { s with started := s.started + 1 }

@[simp] theorem put_generation (s : Subscription α) (g : Nat) (t : Option PollTask) :
    (s.put g t).generation = s.generation := rfl

@[simp] theorem put_started (s : Subscription α) (g : Nat) (t : Option PollTask) :
    (s.put g t).started = s.started := rfl

@[simp] theorem applyOutcome_generation (s : Subscription α) (t : PollTask) (now : Nat)
    (outcome : Except RetrievalError α) :
    (s.applyOutcome t now outcome).generation = s.generation := by
  cases outcome <;> rfl


-- ---------------------------------------------------------------------------
-- Moves
-- ---------------------------------------------------------------------------

/-- The parts of which the steps at time `now` are made. -/
inductive Move (now : Nat) (s : Subscription α) :
    Subscription α → List (PollEvent α) → Prop where
  | settings (enabled : Bool) (resyncKey : Option String) (dropped : Bool) :
    Move now s { s with enabled, resyncKey, dropped } []
  | activate (inactive : s.activation = none) : Move now s s.activate.1 s.activate.2
  | deactivate {g : Nat} (active : s.activation = some g) :
    Move now s s.deactivate.1 s.deactivate.2
  | refresh {g : Nat} (active : s.activation = some g) : Move now s s.refresh []
  | leave {t : PollTask} {due : Nat} (found : s.task? t.generation = some t)
    (chooses : t.due? now = some due)
    (ended : t.stopRequested = true ∨ s.generation ≠ t.generation) :
    Move now s (s.put t.generation none) []
  | wait {t : PollTask} {due : Nat} (found : s.task? t.generation = some t)
    (chooses : t.due? now = some due)
    (choice : t.choose s.interval.nanos now due = .wait) :
    Move now s (s.put t.generation (some { t with phase := .waiting due })) []
  | start {t : PollTask} {due next refreshes : Nat} {trigger : PollTrigger}
    (found : s.task? t.generation = some t) (chooses : t.due? now = some due)
    (choice : t.choose s.interval.nanos now due = .retrieve trigger next refreshes)
    (current : s.generation = t.generation) :
    Move now s
      (s.countStart.put t.generation
        (some { t with phase := .retrieving (s.started + 1) now next, refreshes }))
      [.started (s.started + 1) t.generation trigger]
  | apply {t : PollTask} {number since due : Nat} (outcome : Except RetrievalError α)
    (found : s.task? t.generation = some t) (busy : t.phase = .retrieving number since due)
    (current : s.generation = t.generation) :
    Move now s
      ((s.applyOutcome t now outcome).put t.generation
        (some { t.afterFirst with phase := .waiting due }))
      [s.outcomeEvent number t.generation outcome]
  | discard {t : PollTask} {number since due : Nat}
    (found : s.task? t.generation = some t) (busy : t.phase = .retrieving number since due)
    (stale : s.generation ≠ t.generation) :
    Move now s (s.put t.generation none) [.discarded number t.generation]

/-- A chain of moves at one time, with the events of all of them. -/
inductive Moves (now : Nat) :
    Subscription α → Subscription α → List (PollEvent α) → Prop where
  | refl (s : Subscription α) : Moves now s s []
  | cons {s s' s'' : Subscription α} {es es' : List (PollEvent α)}
    (first : Move now s s' es) (rest : Moves now s' s'' es') : Moves now s s'' (es ++ es')

theorem Moves.single {now : Nat} {s s' : Subscription α} {es : List (PollEvent α)}
    (h : Move now s s' es) : Moves now s s' es := by
  simpa using Moves.cons h (.refl s')

theorem Moves.pair {now : Nat} {s s' s'' : Subscription α} {es es' : List (PollEvent α)}
    (h : Move now s s' es) (h' : Move now s' s'' es') : Moves now s s'' (es ++ es') :=
  .cons h (.single h')


-- ---------------------------------------------------------------------------
-- Bookkeeping
-- ---------------------------------------------------------------------------

/-- What the owner set and whether there is an activation agree. -/
def IsBookkept (s : Subscription α) : Prop :=
  s.isActive = (s.enabled && !s.dropped)

theorem activation_activate (s : Subscription α) :
    s.activate.1.activation = some (s.generation + 1) := rfl

theorem activation_deactivate (s : Subscription α) : s.deactivate.1.activation = none := by
  unfold deactivate
  cases h : s.activation with
  | none => exact h
  | some g => rfl

theorem isBookkept_new (options : PollOptions) :
    (new options : Subscription α × List (PollEvent α)).1.IsBookkept := by
  unfold new IsBookkept
  cases h : options.enabled with
  | false => rfl
  | true => simp [activate, isActive]

theorem IsBookkept.turn {s : Subscription α} (h : s.IsBookkept) (now generation : Nat) :
    (s.turn now generation).1.IsBookkept := by
  unfold Subscription.turn
  split
  · exact h
  · simp only
    split <;> exact h

theorem IsBookkept.settle {s : Subscription α} (h : s.IsBookkept) (now number : Nat)
    (outcome : Except RetrievalError α) : (s.settle now number outcome).1.IsBookkept := by
  unfold Subscription.settle
  split
  · exact h
  · split
    · split <;> exact h
    · exact h

theorem deactivate_settings (s : Subscription α) :
    s.deactivate.1.enabled = s.enabled ∧ s.deactivate.1.dropped = s.dropped := by
  unfold deactivate
  split <;> exact ⟨rfl, rfl⟩

theorem IsBookkept.setEnabled {s : Subscription α} (h : s.IsBookkept) (hd : s.dropped = false)
    (enabled : Bool) : (s.setEnabled enabled).1.IsBookkept := by
  unfold Subscription.setEnabled
  split
  · exact h
  · cases enabled with
    | true => simp [IsBookkept, isActive, activate, hd]
    | false =>
      simp [IsBookkept, isActive, activation_deactivate, deactivate_settings]

theorem IsBookkept.setResyncKey {s : Subscription α} (h : s.IsBookkept)
    (hd : s.dropped = false) (key : Option String) : (s.setResyncKey key).1.IsBookkept := by
  unfold Subscription.setResyncKey
  split
  · exact h
  · cases he : s.enabled with
    | true => simp [IsBookkept, isActive, activate, deactivate_settings, hd]
    | false =>
      have := h
      simp only [IsBookkept, isActive, he] at this ⊢
      simpa using this

theorem IsBookkept.act {s : Subscription α} (h : s.IsBookkept) (now : Nat) (a : PollAction α) :
    (s.act now a).1.IsBookkept := by
  unfold Subscription.act
  cases a with
  | setEnabled enabled =>
    cases hd : s.dropped with
    | true => exact h
    | false => exact h.setEnabled hd enabled
  | setResyncKey key =>
    cases hd : s.dropped with
    | true => exact h
    | false => exact h.setResyncKey hd key
  | refresh =>
    cases hd : s.dropped with
    | true => exact h
    | false =>
      simp only [Bool.false_eq_true, if_false, Subscription.refresh]
      split <;> exact h
  | drop =>
    cases hd : s.dropped with
    | true => exact h
    | false => simp [IsBookkept, isActive, Subscription.drop, activation_deactivate]
  | turn generation => exact h.turn now generation
  | settle number outcome => exact h.settle now number outcome


-- ---------------------------------------------------------------------------
-- Steps are chains of moves
-- ---------------------------------------------------------------------------

/-- The activations that have tasks are distinct. -/
def HasDistinctTasks (s : Subscription α) : Prop :=
  (s.tasks.map (·.generation)).Nodup

theorem choose_eq_leave {t : PollTask} {period now due : Nat}
    (h : t.choose period now due = .leave) : t.stopRequested = true := by
  unfold PollTask.choose at h
  cases hs : t.stopRequested with
  | true => rfl
  | false =>
    simp only [hs, Bool.false_eq_true, if_false] at h
    split at h
    · cases h
    · split at h <;> cases h

/-- A task that chooses makes one move. -/
theorem move_proceed {s : Subscription α} {t : PollTask} {now due : Nat}
    (found : s.task? t.generation = some t) (chooses : t.due? now = some due) :
    Move now s
      { s with
        tasks := replaceFirst (·.generation == t.generation) (s.proceed t now due).1 s.tasks
        started := (s.proceed t now due).2.1 }
      (s.proceed t now due).2.2 := by
  unfold proceed
  cases hc : t.choose s.interval.nanos now due with
  | leave => exact .leave found chooses (Or.inl (choose_eq_leave hc))
  | wait => exact .wait found chooses hc
  | retrieve trigger next refreshes =>
    by_cases hg : s.generation = t.generation
    · simp only [hg, if_true]
      exact .start found chooses hc hg
    · simp only [hg, if_false]
      exact .leave found chooses (Or.inr hg)

theorem moves_turn (s : Subscription α) (now generation : Nat) :
    Moves now s (s.turn now generation).1 (s.turn now generation).2 := by
  unfold turn
  cases ht : s.task? generation with
  | none => exact .refl s
  | some t =>
    have hg : t.generation = generation := key_of_find? ht
    subst hg
    simp only
    cases hp : t.phase with
    | spawned => exact .single (move_proceed ht (by simp [PollTask.due?, hp]))
    | waiting due => exact .single (move_proceed ht (by simp [PollTask.due?, hp]))
    | retrieving number since due => exact .refl s

/-- A settled retrieval makes one move if it is discarded, and two if it is applied: the
task is back at its timer in between. -/
theorem moves_settle {s : Subscription α} (hd : s.HasDistinctTasks) (now number : Nat)
    (outcome : Except RetrievalError α) :
    Moves now s (s.settle now number outcome).1 (s.settle now number outcome).2 := by
  unfold settle
  cases hn : s.retrieving? number with
  | none => exact .refl s
  | some t =>
    have found : s.task? t.generation = some t :=
      (find?_eq_some_iff_mem hd).2 (List.mem_of_find?_eq_some hn)
    have hr : t.retrieval? = some number := by simpa using List.find?_some hn
    cases hp : t.phase with
    | spawned => simp [PollTask.retrieval?, hp] at hr
    | waiting due => simp [PollTask.retrieval?, hp] at hr
    | retrieving number' since due =>
      have hnn : number' = number := by simpa [PollTask.retrieval?, hp] using hr
      subst hnn
      have hsame (t' : Option PollTask) :
          replaceFirst (·.retrieval? == some number') t' s.tasks =
            replaceFirst (·.generation == t.generation) t' s.tasks :=
        replaceFirst_congr t' hd hn found
      simp only [hp, hsame]
      by_cases hg : s.generation = t.generation
      · simp only [hg, if_true]
        have hback : ((s.applyOutcome t now outcome).put t.generation
            (some { t.afterFirst with phase := .waiting due })).task? t.generation =
              some { t.afterFirst with phase := .waiting due } :=
          find?_replaceFirst_some rfl found
        have hnext : Move now _ _ _ :=
          move_proceed (t := { t.afterFirst with phase := .waiting due }) hback rfl
        have htasks (t' : Option PollTask) :
            replaceFirst (·.generation == t.generation) t'
              (replaceFirst (·.generation == t.generation)
                (some { t.afterFirst with phase := .waiting due }) s.tasks) =
            replaceFirst (·.generation == t.generation) t' s.tasks :=
          replaceFirst_replaceFirst rfl
        refine .pair (.apply outcome found hp hg) ?_
        rw [← htasks]
        exact hnext
      · simp only [hg, if_false]
        exact .single (.discard found hp hg)

theorem moves_deactivate (s : Subscription α) (now : Nat) :
    Moves now s s.deactivate.1 s.deactivate.2 := by
  cases h : s.activation with
  | none => simpa [deactivate, h] using Moves.refl s
  | some g => exact .single (.deactivate h)

theorem moves_setEnabled {s : Subscription α} (hb : s.IsBookkept) (now : Nat) (enabled : Bool) :
    Moves now s (s.setEnabled enabled).1 (s.setEnabled enabled).2 := by
  unfold setEnabled
  split
  · exact .refl s
  · next hne =>
    have hset : Move now s { s with enabled } [] := .settings enabled s.resyncKey s.dropped
    cases enabled with
    | true =>
      have hoff : s.enabled = false := by simpa using hne
      have hnone : s.activation = none := by simpa [IsBookkept, isActive, hoff] using hb
      exact .pair hset (.activate hnone)
    | false => exact .cons hset (moves_deactivate _ now)

theorem moves_restart (s : Subscription α) (now : Nat) :
    Moves now s s.deactivate.1.activate.1 (s.deactivate.2 ++ s.deactivate.1.activate.2) := by
  have hstart : Move now s.deactivate.1 s.deactivate.1.activate.1 s.deactivate.1.activate.2 :=
    .activate (activation_deactivate s)
  cases h : s.activation with
  | none => simpa [deactivate, h] using Moves.single hstart
  | some g => exact .pair (.deactivate h) hstart

theorem moves_setResyncKey (s : Subscription α) (now : Nat) (key : Option String) :
    Moves now s (s.setResyncKey key).1 (s.setResyncKey key).2 := by
  have hset : Move now s { s with resyncKey := key } [] := .settings s.enabled key s.dropped
  unfold setResyncKey
  split
  · exact .refl s
  · simp only
    split
    · have := Moves.cons hset (moves_restart { s with resyncKey := key } now)
      exact this
    · exact .single hset

theorem moves_refresh (s : Subscription α) (now : Nat) : Moves now s s.refresh [] := by
  cases h : s.activation with
  | none => simpa [refresh, h] using Moves.refl s
  | some g => exact .single (.refresh h)

theorem moves_drop (s : Subscription α) (now : Nat) : Moves now s s.drop.1 s.drop.2 := by
  have hset (s : Subscription α) : Move now s { s with dropped := true } [] :=
    .settings s.enabled s.resyncKey true
  cases h : s.activation with
  | none => simpa [drop, deactivate, h] using Moves.single (hset s)
  | some g =>
    have := Moves.pair (.deactivate h) (hset s.deactivate.1)
    simpa [drop] using this

theorem moves_act {s : Subscription α} (hb : s.IsBookkept) (hd : s.HasDistinctTasks)
    (now : Nat) (a : PollAction α) : Moves now s (s.act now a).1 (s.act now a).2 := by
  cases a with
  | setEnabled enabled =>
    simp only [act]
    split
    · exact .refl s
    · exact moves_setEnabled hb now enabled
  | setResyncKey key =>
    simp only [act]
    split
    · exact .refl s
    · exact moves_setResyncKey s now key
  | refresh =>
    simp only [act]
    split
    · exact .refl s
    · exact moves_refresh s now
  | drop =>
    simp only [act]
    split
    · exact .refl s
    · exact moves_drop s now
  | turn generation => exact moves_turn s now generation
  | settle number outcome => exact moves_settle hd now number outcome

end Subscription

end DashboardClient
