import DashboardClient.Proofs.Polling.Course

/-!
# Revoked retrievals have no influence

Two runs of one script agree in everything but the steps of tasks whose activation is over, even
if their sources answer differently wherever the retrieval is revoked in the end. Each is
compared with the run in which these tasks take no steps at all. That run is the same for both
sources: where they differ, no outcome is ever applied.
-/

namespace DashboardClient

variable {α : Type}

-- ---------------------------------------------------------------------------
-- Runs that agree
-- ---------------------------------------------------------------------------

/-- All that happened, except that outcomes were discarded. -/
def seenIn (history : List (Nat × PollEvent α)) : List (Nat × PollEvent α) :=
  history.filter (!·.2.isDiscarded)

theorem seenIn_append (first rest : List (Nat × PollEvent α)) :
    seenIn (first ++ rest) = seenIn first ++ seenIn rest :=
  List.filter_append _ _

namespace PollRun

variable {r r' : PollRun α} {source : Source α} {a : PollAction α}

/-- The runs differ in revoked tasks and in what these report, and in nothing else. -/
structure Agrees (r r' : PollRun α) : Prop where
  now : r.now = r'.now
  live : r.subscription.live = r'.subscription.live
  seen : seenIn r.history = seenIn r'.history

theorem Agrees.symm (h : r.Agrees r') : r'.Agrees r :=
  ⟨h.now.symm, h.live.symm, h.seen.symm⟩

theorem Agrees.trans {r'' : PollRun α} (h : r.Agrees r') (h' : r'.Agrees r'') : r.Agrees r'' :=
  ⟨h.now.trans h'.now, h.live.trans h'.live, h.seen.trans h'.seen⟩

theorem Agrees.take (h : r.Agrees r')
    (same : Subscription.Alike (r.subscription.act r.now a) (r'.subscription.act r.now a)) :
    (r.take a).Agrees (r'.take a) := by
  obtain ⟨hlive, hevents⟩ := same
  constructor
  case now => exact h.now
  case live => rw [subscription_take, subscription_take, ← h.now, hlive]
  case seen =>
    rw [history_take, history_take, seenIn_append, seenIn_append, ← h.now, hevents, h.seen]

theorem Agrees.obey (h : r.Agrees r') (source : Source α) (c : PollCommand α) :
    (r.obey source c).Agrees (r'.obey source c) := by
  cases c with
  | call a owners =>
    exact h.take (Subscription.alike_act_of_owners r.isOrderly r'.isOrderly h.live r.now owners)
  | pass nanos => exact ⟨congrArg (· + nanos) h.now, h.live, h.seen⟩
  | poll =>
    unfold PollRun.obey
    rw [← Subscription.current?_congr h.live, ← h.now]
    cases hc : r.subscription.current? with
    | none => exact h
    | some t =>
      rw [Option.bind_some]
      cases hstep : t.step? source r.now with
      | none => exact h
      | some a =>
        exact h.take (Subscription.alike_poll r.isOrderly r'.isOrderly r.isRecorded r'.isRecorded
          h.live hc hstep)

/-- A step of a task whose activation is over makes no difference. -/
theorem agrees_take_of_over {t : PollTask} (ht : t ∈ r.subscription.tasks)
    (ended : r.subscription.activation ≠ some t.generation)
    (step : t.step? source r.now = some a) : (r.take a).Agrees r := by
  obtain ⟨hlive, hevents⟩ :=
    Subscription.live_act_of_over r.isOrderly r.isRecorded ht ended step
  have hnone : seenIn ((r.subscription.act r.now a).2.map (r.now, ·)) = [] := by
    simpa [seenIn, List.filter_eq_nil_iff] using hevents
  constructor
  case now => rfl
  case live => rw [subscription_take, hlive]
  case seen => rw [history_take, seenIn_append, hnone, List.append_nil]

end PollRun

/-- Every run of a script agrees with the one in which revoked tasks take no steps. -/
theorem Course.agrees {source : Source α} {r r' : PollRun α} {script : List (PollCommand α)}
    (h : Course source r script r') : r'.Agrees (r.undisturbed source script) := by
  induction h with
  | begin => exact ⟨rfl, rfl, rfl⟩
  | obey _ c ih =>
    rw [PollRun.undisturbed_snoc]
    exact ih.obey source c
  | revoked _ ht ended step ih => exact (PollRun.agrees_take_of_over ht ended step).trans ih


-- ---------------------------------------------------------------------------
-- Sources that differ
-- ---------------------------------------------------------------------------

/-- What is read off a history without regard to discards can be read off what is seen of it. -/
theorem filterMap_seenIn {β : Type} {f : Nat × PollEvent α → Option β}
    (blind : ∀ time n g, f (time, .discarded n g) = none) (history : List (Nat × PollEvent α)) :
    (seenIn history).filterMap f = history.filterMap f := by
  rw [seenIn, List.filterMap_filter]
  refine List.filterMap_congr fun x _ => ?_
  obtain ⟨time, e⟩ := x
  cases e with
  | discarded n g => exact (blind time n g).symm
  | _ => rfl

namespace PollRun

variable {r r' whole : PollRun α} {source source' : Source α} {n : Nat}

theorem Agrees.applied (h : r.Agrees r') :
    Subscription.appliedIn r.history = Subscription.appliedIn r'.history := by
  have hblind (history : List (Nat × PollEvent α)) :=
    filterMap_seenIn (f := (·.2.applied?)) (fun _ _ _ => rfl) history
  rw [Subscription.appliedIn, Subscription.appliedIn, ← hblind, h.seen, hblind]

theorem IsStartOf.applied (h : r.IsStartOf whole) :
    Subscription.appliedIn r.history ⊆ Subscription.appliedIn whole.history := by
  obtain ⟨rest, hrest⟩ := h.steps
  have hhistory : ∃ later, whole.history = r.history ++ later := by
    refine ⟨(r.subscription.run rest).2, ?_⟩
    rw [history, ← hrest, ← h.options, ← h.born, Subscription.life_append]
    rfl
  obtain ⟨later, hlater⟩ := hhistory
  rw [hlater, Subscription.appliedIn, Subscription.appliedIn, List.filterMap_append]
  exact List.subset_append_left _ _

theorem not_applied_of_revoked (r : PollRun α) {g : Nat}
    (h : Subscription.Revoked r.history n g) : n ∉ Subscription.appliedIn r.history :=
  r.isAccounted.unapplied n g h

/-- If the current retrieval settles, its outcome is applied. -/
theorem applied_of_poll {t : PollTask} {since due : Nat} {a : PollAction α}
    (current : r.subscription.current? = some t) (busy : t.phase = .retrieving n since due)
    (step : t.step? source r.now = some a) :
    n ∈ Subscription.appliedIn (r.take a).history := by
  rcases PollTask.step?_cases step with ⟨tick, chooses, _⟩ | ⟨m, since', due', busy', rfl⟩
  · simp [PollTask.due?, busy] at chooses
  · obtain rfl : n = m := by
      rw [busy, PollPhase.retrieving.injEq] at busy'
      exact busy'.1
    rw [history_take, Subscription.appliedIn, List.filterMap_append, List.mem_append]
    right
    simp only [Subscription.act]
    rw [Subscription.settle_of_current r.isRecorded r.isOrderly
      (Subscription.mem_of_current? current) busy (r.isOrderly.generation_current current)]
    refine List.mem_filterMap.2 ⟨_, List.mem_cons_self, ?_⟩
    cases (source n).outcome <;> rfl

/-- Two sources make no difference to a poll unless they differ in what it applies. -/
theorem poll_congr
    (unused : ∀ n, source n ≠ source' n →
      n ∉ Subscription.appliedIn (r.obey source .poll).history ∧
      n ∉ Subscription.appliedIn (r.obey source' .poll).history) :
    r.obey source .poll = r.obey source' .poll := by
  unfold obey at unused ⊢
  cases hc : r.subscription.current? with
  | none => rfl
  | some t =>
    simp only [hc, Option.bind_some] at unused ⊢
    have hsame : t.step? source r.now = t.step? source' r.now := by
      cases hp : t.phase with
      | spawned => simp [PollTask.step?, hp]
      | waiting due => simp [PollTask.step?, hp]
      | retrieving n since due =>
        by_cases heq : source n = source' n
        · simp [PollTask.step?, hp, heq]
        · -- Neither source lets the retrieval settle here, since that would apply its outcome.
          obtain ⟨hunused, hunused'⟩ := unused n heq
          have hnone : t.step? source r.now = none := by
            refine Option.eq_none_iff_forall_ne_some.2 fun a step => ?_
            rw [step] at hunused
            exact hunused (applied_of_poll hc hp step)
          have hnone' : t.step? source' r.now = none := by
            refine Option.eq_none_iff_forall_ne_some.2 fun a step => ?_
            rw [step] at hunused'
            exact hunused' (applied_of_poll hc hp step)
          rw [hnone, hnone']
    rw [hsame]

theorem undisturbed_congr {script : List (PollCommand α)}
    (unused : ∀ n, source n ≠ source' n →
      n ∉ Subscription.appliedIn (r.undisturbed source script).history ∧
      n ∉ Subscription.appliedIn (r.undisturbed source' script).history) :
    r.undisturbed source script = r.undisturbed source' script := by
  induction script using List.reverseRecOn with
  | nil => rfl
  | append_singleton script c ih =>
    rw [undisturbed_snoc, undisturbed_snoc] at unused ⊢
    have hstart (source : Source α) :=
      ((r.undisturbed source script).isStartOf_obey source c).applied
    have hbefore : r.undisturbed source script = r.undisturbed source' script := by
      refine ih fun n hne => ?_
      obtain ⟨hunused, hunused'⟩ := unused n hne
      exact ⟨fun hn => hunused (hstart source hn), fun hn => hunused' (hstart source' hn)⟩
    rw [hbefore] at unused ⊢
    cases c with
    | call => rfl
    | pass => rfl
    | poll => exact poll_congr unused


-- ---------------------------------------------------------------------------
-- Independence
-- ---------------------------------------------------------------------------

/-- The starts of retrievals, each with its time, number and activation. -/
def startTimes (r : PollRun α) : List (Nat × Nat × Nat) :=
  r.history.filterMap fun x => x.2.started?.map (x.1, ·)

theorem Agrees.startTimes (h : r.Agrees r') : r.startTimes = r'.startTimes := by
  have hblind (history : List (Nat × PollEvent α)) :=
    filterMap_seenIn (f := fun x => x.2.started?.map (x.1, ·)) (fun _ _ _ => rfl) history
  rw [PollRun.startTimes, PollRun.startTimes, ← hblind, h.seen, hblind]

/-- No line about a failure of the retrieval goes to the log. -/
def IsSilentAbout (r : PollRun α) (number : Nat) : Prop :=
  ∀ x ∈ r.history, x.2.number? = some number → ∀ line, x.2.line? = some line →
    line.level ≠ .warn ∧ line.message ≠ "retrieval still failing"

theorem isSilentAbout_of_revoked (r : PollRun α) {g : Nat}
    (h : Subscription.Revoked r.history n g) : r.IsSilentAbout n := by
  intro x hx hn line hline
  have hunapplied := r.not_applied_of_revoked h
  obtain ⟨time, e⟩ := x
  cases e with
  | failed m g e fresh => exact absurd (List.mem_filterMap.2 ⟨_, hx, hn⟩) hunapplied
  | discarded m g =>
    obtain rfl := Option.some.inj hline
    exact ⟨by simp, by simp⟩
  | started => cases hline
  | succeeded => cases hline
  | activated => cases hn
  | deactivated => cases hn

/-- Take two runs of one script on sources that answer alike, except where the retrieval was in
flight when its activation ended, in the one run as in the other. Such a retrieval may settle
with anything at any later time, or never. Still the runs have the same snapshot in the same
version at the end of the script, and so at every time, all retrievals started at the same
times, and no failure of a revoked retrieval is logged. -/
theorem revoked_retrievals_have_no_influence {options : PollOptions} {born : Nat}
    {script : List (PollCommand α)} (course : Course source { options, born } script r)
    (course' : Course source' { options, born } script r')
    {whole' : PollRun α} (start : r.IsStartOf whole) (start' : r'.IsStartOf whole')
    (differ : ∀ n, source n ≠ source' n →
      (∃ g, Subscription.Revoked whole.history n g) ∧
      ∃ g, Subscription.Revoked whole'.history n g) :
    r.now = r'.now ∧
    r.subscription.watched = r'.subscription.watched ∧
    (∀ receiver, r.subscription.isOpen = true → r'.subscription.isOpen = true →
      r.subscription.watched.news r.subscription.isOpen receiver =
        r'.subscription.watched.news r'.subscription.isOpen receiver) ∧
    r.startTimes = r'.startTimes ∧
    (∀ n g, Subscription.Revoked whole.history n g → whole.IsSilentAbout n) ∧
    (∀ n g, Subscription.Revoked whole'.history n g → whole'.IsSilentAbout n) := by
  have hagrees := course.agrees
  have hagrees' := course'.agrees
  have hsame : ({ options, born } : PollRun α).undisturbed source script =
      ({ options, born } : PollRun α).undisturbed source' script := by
    refine undisturbed_congr fun n hne => ?_
    obtain ⟨⟨g, hrevoked⟩, g', hrevoked'⟩ := differ n hne
    rw [← hagrees.applied, ← hagrees'.applied]
    exact ⟨fun hn => whole.not_applied_of_revoked hrevoked (start.applied hn),
      fun hn => whole'.not_applied_of_revoked hrevoked' (start'.applied hn)⟩
  have h : r.Agrees r' := (hsame ▸ hagrees).trans hagrees'.symm
  have hwatched : r.subscription.watched = r'.subscription.watched :=
    show r.subscription.live.watched = r'.subscription.live.watched by rw [h.live]
  refine ⟨h.now, hwatched, ?_, h.startTimes, ?_, ?_⟩
  · intro receiver hopen hopen'
    rw [hwatched, hopen, hopen']
  · exact fun n g hrevoked => whole.isSilentAbout_of_revoked hrevoked
  · exact fun n g hrevoked => whole'.isSilentAbout_of_revoked hrevoked

/-- The key changes while a retrieval is in flight. It settles five milliseconds after its start
in one run and never in the other. -/
theorem no_influence_of_late_settlement :
    let ms := millisecond
    let options : PollOptions := { interval := ⟨10 * ms, by decide⟩ }
    let source : Source Nat :=
      fun n => if n = 1 then ⟨some (5 * ms), .ok 7⟩ else ⟨some (2 * ms), .ok 8⟩
    let source' : Source Nat :=
      fun n => if n = 1 then ⟨none, .ok 7⟩ else ⟨some (2 * ms), .ok 8⟩
    let script : List (PollCommand Nat) :=
      [.poll, .call (.setResyncKey (some "b")) trivial, .poll, .pass (5 * ms), .poll]
    let start : PollRun Nat := { options, born := 0 }
    let r := (start.undisturbed source script).take (.settle 1 (.ok 7))
    let r' := start.undisturbed source' script
    r.subscription.tasks.length = 1 ∧ r'.subscription.tasks.length = 2 ∧
      r.subscription.watched = r'.subscription.watched ∧ r.startTimes = r'.startTimes ∧
      r.IsSilentAbout 1 := by
  intro ms options source source' script start r r'
  let revoked : PollTask :=
    { generation := 1, phase := .retrieving 1 0 (10 * ms), stopRequested := true }
  let quiet := start.undisturbed source script
  have hmem : revoked ∈ quiet.subscription.tasks := by decide +kernel
  have hmem' : revoked ∈ r'.subscription.tasks := by decide +kernel
  have hover : quiet.subscription.activation ≠ some 1 := by decide +kernel
  have hover' : r'.subscription.activation ≠ some 1 := by decide +kernel
  have hnow : quiet.now = 5 * ms := by decide +kernel
  have step : revoked.step? source quiet.now = some (.settle 1 (.ok 7)) := by
    rw [hnow]
    rfl
  have course : Course source start script r :=
    (course_undisturbed source start script).revoked hmem hover step
  have hrevoked : Subscription.Revoked r.history 1 1 := by
    rw [history_take]
    exact (quiet.isAccounted.revoked revoked hmem 1 rfl hover).append _
  have hrevoked' : Subscription.Revoked r'.history 1 1 :=
    r'.isAccounted.revoked revoked hmem' 1 rfl hover'
  have differ : ∀ n, source n ≠ source' n →
      (∃ g, Subscription.Revoked r.history n g) ∧ ∃ g, Subscription.Revoked r'.history n g := by
    intro n hne
    by_cases hn : n = 1
    · subst hn
      exact ⟨⟨1, hrevoked⟩, 1, hrevoked'⟩
    · exact absurd (by simp [source, source', hn]) hne
  obtain ⟨_, hwatched, _, hstarts, hsilent, _⟩ :=
    revoked_retrievals_have_no_influence course (course_undisturbed source' start script)
      r.isStartOf_self r'.isStartOf_self differ
  exact ⟨by decide +kernel, by decide +kernel, hwatched, hstarts, hsilent 1 1 hrevoked⟩

end PollRun

end DashboardClient
