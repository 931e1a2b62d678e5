import DashboardClient.Proofs.Polling.Bookkeeping
import DashboardClient.Proofs.Watched

/-!
# Notifications of a subscription

Receivers are told when an activation begins or ends and when an outcome is applied, once each
time, and of nothing else. So the versions of the snapshot are accounted for by its generation,
which counts the former, and by the outcomes in the history. The account balances after every
move, hence also between the end of one activation and the beginning of the next one in a change
of the key.
-/

namespace DashboardClient

variable {α : Type}

namespace PollEvent

/-- An activation begins or ends. -/
def isBoundary : PollEvent α → Bool
  | .activated _ _ _ => true
  | .deactivated _ => true
  | _ => false

/-- Receivers are told of the event: an activation begins or ends, or an outcome is applied. -/
def tells (e : PollEvent α) : Bool :=
  e.isBoundary || e.outcome?.isSome

theorem countP_tells (es : List (PollEvent α)) :
    es.countP tells = es.countP isBoundary + (es.filterMap (·.outcome?)).length := by
  induction es with
  | nil => rfl
  | cons e es ih =>
    rw [List.countP_cons, List.countP_cons, List.filterMap_cons, ih]
    cases e <;> simp [tells, isBoundary, outcome?] <;> omega

end PollEvent

namespace Subscription

variable {s s' : Subscription α} {now : Nat} {es : List (PollEvent α)}
  {history : List (Nat × PollEvent α)}

-- ---------------------------------------------------------------------------
-- Moves
-- ---------------------------------------------------------------------------

/-- A move makes one version for each event that receivers are told of. -/
theorem Move.makes (hm : Move now s s' es) :
    Watched.Makes (es.countP PollEvent.tells) s.watched s'.watched := by
  cases hm with
  | activate => exact Watched.Makes.write s.watched _
  | deactivate active =>
    rw [Subscription.deactivate, active]
    exact Watched.Makes.write s.watched _
  | refresh active =>
    rw [Subscription.refresh, active]
    exact Watched.Makes.refl s.watched
  | apply outcome => cases outcome <;> exact Watched.Makes.write s.watched _
  | _ => exact Watched.Makes.refl s.watched

/-- The generation counts where activations begin and end. -/
theorem Move.generation_eq (hm : Move now s s' es) :
    s'.generation = s.generation + es.countP PollEvent.isBoundary := by
  cases hm with
  | activate => rfl
  | deactivate active =>
    rw [generation_deactivate active, Subscription.deactivate, active]
    rfl
  | refresh => exact generation_refresh s
  | apply outcome =>
    rw [put_generation, applyOutcome_generation]
    cases outcome <;> rfl
  | _ => rfl

theorem Moves.makes (hm : Moves now s s' es) :
    Watched.Makes (es.countP PollEvent.tells) s.watched s'.watched := by
  induction hm with
  | refl s => exact Watched.Makes.refl s.watched
  | cons first _ ih =>
    rw [List.countP_append]
    exact first.makes.trans ih

theorem Moves.generation_eq (hm : Moves now s s' es) :
    s'.generation = s.generation + es.countP PollEvent.isBoundary := by
  induction hm with
  | refl s => rfl
  | cons first _ ih => rw [ih, first.generation_eq, List.countP_append, Nat.add_assoc]


-- ---------------------------------------------------------------------------
-- The account of versions
-- ---------------------------------------------------------------------------

/-- Every version belongs to an activation that began or ended or to an outcome. -/
def IsVersioned (s : Subscription α) (history : List (Nat × PollEvent α)) : Prop :=
  s.watched.version = s.generation + (outcomesIn history).length

theorem IsBlank.isVersioned (h : s.IsBlank) : s.IsVersioned [] := by
  simp [IsVersioned, generation, snapshot, h.watched, outcomesIn]

theorem length_outcomesIn_map (now : Nat) (es : List (PollEvent α)) :
    (outcomesIn (es.map (now, ·))).length = (es.filterMap (·.outcome?)).length := by
  induction es with
  | nil => rfl
  | cons e es ih => cases he : e.outcome? <;> simpa [outcomesIn, he] using ih

theorem Moves.isVersioned (hm : Moves now s s' es) (h : s.IsVersioned history) :
    s'.IsVersioned (history ++ es.map (now, ·)) := by
  rw [IsVersioned, hm.makes.version, hm.generation_eq, PollEvent.countP_tells, h,
    outcomesIn_append, List.length_append, length_outcomesIn_map]
  omega

theorem isVersioned_life (options : PollOptions) (born : Nat)
    (actions : List (Nat × PollAction α)) :
    (life options born actions).1.IsVersioned (life options born actions).2 :=
  life_induct IsBlank.isVersioned (fun _ h hm => (Moves.single hm).isVersioned h) options born
    actions


-- ---------------------------------------------------------------------------
-- Steps and runs
-- ---------------------------------------------------------------------------

/-- A step makes as many versions as it begins and ends activations and applies outcomes. -/
theorem makes_act (hb : s.IsBookkept) (ho : s.IsOrderly) (now : Nat) (a : PollAction α) :
    Watched.Makes (s.gain a + ((s.act now a).2.filterMap (·.outcome?)).length) s.watched
      (s.act now a).1.watched := by
  have hm := moves_act hb ho.distinct now a
  have hgain : (s.act now a).2.countP PollEvent.isBoundary = s.gain a :=
    Nat.add_left_cancel (hm.generation_eq.symm.trans (hb.generation_act now a))
  rw [← hgain, ← PollEvent.countP_tells]
  exact hm.makes

theorem makes_run (options : PollOptions) (born : Nat) (before later : List (Nat × PollAction α)) :
    Watched.Makes (((life options born before).1.run later).2.countP (·.2.tells))
      (life options born before).1.watched ((life options born before).1.run later).1.watched := by
  induction later using List.reverseRecOn with
  | nil => exact Watched.Makes.refl _
  | append_singleton later step ih =>
    obtain ⟨now, a⟩ := step
    have hlast : (life options born (before ++ later)).1 =
        ((life options born before).1.run later).1 := by rw [life_append]
    have hb := isBookkept_life options born (before ++ later)
    have ho := isOrderly_life options born (before ++ later)
    rw [hlast] at hb ho
    have hm := (moves_act hb ho.distinct now a).makes
    simp only [run_append, run, List.append_nil, List.countP_append, List.countP_map]
    exact ih.trans hm

/-- A step that begins and ends no activation and applies no outcome leaves the snapshot as it
is. -/
theorem watched_act (hb : s.IsBookkept) (ho : s.IsOrderly) {a : PollAction α}
    (stays : s.gain a = 0) (none : (s.act now a).2.filterMap (·.outcome?) = []) :
    (s.act now a).1.watched = s.watched :=
  (makes_act hb ho now a).kept (by rw [stays, none]; rfl)


-- ---------------------------------------------------------------------------
-- Exactness
-- ---------------------------------------------------------------------------

/-- Whatever the owner and the tasks do: the versions that were made are as many as the generation
says and the outcomes that were applied, also in the midst of a step. An outcome makes one version
if it settles in the generation of its activation, and none otherwise; a request to refresh, a turn
of a task, setting what is set already and another key while polling is disabled make none. Under
one version there is one snapshot, so while somebody is left who could write, a receiver has news
exactly if, since it looked last, an activation began or ended or an outcome was applied. -/
theorem snapshot_notifications_exact (options : PollOptions) (born : Nat)
    (actions : List (Nat × PollAction α)) :
    let s := (life options born actions).1
    let history := (life options born actions).2
    s.watched.version = s.snapshot.generation + (outcomesIn history).length ∧
    (∀ now mid es, Moves now s mid es →
      mid.watched.version =
        mid.snapshot.generation + (outcomesIn (history ++ es.map (now, ·))).length) ∧
    (∀ now n g outcome, InFlight history n g →
      let settled := (s.act now (.settle n outcome)).1
      (g = s.generation → settled.watched.version = s.watched.version + 1) ∧
      (g ≠ s.generation → settled.watched = s.watched)) ∧
    (∀ now,
      (s.act now .refresh).1.watched = s.watched ∧
      (s.act now (.setEnabled s.enabled)).1.watched = s.watched ∧
      (s.act now (.setResyncKey s.resyncKey)).1.watched = s.watched ∧
      (s.enabled = false → ∀ key, (s.act now (.setResyncKey key)).1.watched = s.watched) ∧
      ∀ g, (s.act now (.turn g)).1.watched = s.watched) ∧
    (∀ before later, actions = before ++ later →
      let seen := (life options born before).1
      (s.watched.version = seen.watched.version → s.snapshot = seen.snapshot) ∧
      (s.isOpen = true →
        (s.watched.news s.isOpen seen.watched.subscribe = .changed ↔
          ∃ e ∈ (seen.run later).2, e.2.tells = true))) := by
  intro s history
  have hb : s.IsBookkept := isBookkept_life options born actions
  have ho : s.IsOrderly := isOrderly_life options born actions
  have hr : s.IsRecorded history := isRecorded_life options born actions
  have hversions : s.IsVersioned history := isVersioned_life options born actions
  refine ⟨hversions, fun _ _ _ hm => hm.isVersioned hversions, ?outcomes, ?idle, ?looks⟩
  case outcomes =>
    intro now n g outcome flight settled
    have hmakes := makes_act hb ho now (.settle n outcome)
    have happlied : (s.act now (.settle n outcome)).2.filterMap (·.outcome?) =
        if g = s.generation then [outcome] else [] := outcomes_settle hr ho flight outcome
    constructor
    · intro current
      rw [happlied, if_pos current] at hmakes
      exact hmakes.version
    · intro stale
      exact watched_act hb ho rfl (happlied.trans (if_neg stale))
  case idle =>
    intro now
    have quiet (a : PollAction α) (stays : s.gain a = 0)
        (other : ∀ n outcome, a ≠ .settle n outcome) : (s.act now a).1.watched = s.watched :=
      watched_act hb ho stays (outcomes_eq_nil hr a fun n outcome ha => absurd ha (other n outcome))
    refine ⟨quiet _ rfl (by simp), quiet _ ?_ (by simp), quiet _ ?_ (by simp), ?_, ?_⟩
    · simp [gain]
    · simp [gain]
    · intro disabled key
      exact quiet _ (by simp [gain, disabled]) (by simp)
    · exact fun g => quiet _ rfl (by simp)
  case looks =>
    rintro before later hactions seen
    have hmakes := makes_run options born before later
    have hlast : s = (seen.run later).1 := by
      simp only [s, hactions, life_append]
      rfl
    rw [← hlast] at hmakes
    refine ⟨fun same => congrArg Watched.value (hmakes.eq_of_version_eq same), ?_⟩
    intro alive
    rw [hmakes.news_eq_changed_iff alive, ← Nat.pos_iff_ne_zero, List.countP_pos_iff]

/-- The key changes while the first retrieval is in flight, which makes two versions, the first one
when the old activation has ended and the new one has not begun. The outcome of the retrieval then
makes none, and that of the new one makes one. -/
theorem snapshot_notifications_of_late_outcome :
    let ms := millisecond
    let options : PollOptions := { interval := ⟨10 * ms, by decide⟩ }
    let before : List (Nat × PollAction Nat) := [(0, .turn 1)]
    let change : List (Nat × PollAction Nat) := [(ms, .setResyncKey (some "b")), (ms, .turn 3)]
    let first := (life options 0 before).1
    let s := (life options 0 (before ++ change)).1
    first.deactivate.1.watched.version = 2 ∧
      s.watched.version = 3 ∧
      s.watched.news s.isOpen first.watched.subscribe = .changed ∧
      (s.act (2 * ms) (.settle 1 (.ok 7))).1.watched = s.watched ∧
      (s.act (2 * ms) (.settle 2 (.ok 8))).1.watched.version = 4 := by
  intro ms options before change first s
  obtain ⟨_, hmidst, _, _, _⟩ := snapshot_notifications_exact options 0 before
  obtain ⟨hversions, _, houtcomes, _, hlooks⟩ :=
    snapshot_notifications_exact options 0 (before ++ change)
  have hlate : InFlight (life options 0 (before ++ change)).2 1 1 :=
    ⟨by decide +kernel, by decide +kernel⟩
  have hnew : InFlight (life options 0 (before ++ change)).2 2 3 :=
    ⟨by decide +kernel, by decide +kernel⟩
  have hs : s.watched.version = 3 := hversions.trans (by decide +kernel)
  refine ⟨?_, hs, ?_, ?_, ?_⟩
  · have hended : Moves ms first first.deactivate.1 first.deactivate.2 :=
      .single (.deactivate (g := 1) (by decide +kernel))
    exact (hmidst ms _ _ hended).trans (by decide +kernel)
  · refine ((hlooks before change rfl).2 (by decide +kernel)).2 ?_
    exact ⟨(ms, .deactivated 1), List.Mem.head _, rfl⟩
  · exact (houtcomes (2 * ms) 1 1 (.ok 7) hlate).2 (by decide +kernel)
  · rw [(houtcomes (2 * ms) 2 3 (.ok 8) hnew).1 (by decide +kernel), hs]

end Subscription

end DashboardClient
