import DashboardClient.Proofs.Polling.Schedules

/-!
# Subscriptions are isolated

Subscriptions on one clock, whose owners may make more of them and call on them at any time: at
rest, when tasks are due that have not run yet, and between the steps of tasks. What one of them
does in company it does alone: leave all others out of a run, and a run is left in which this
subscription takes the same steps at the same times. Since the order of steps does not matter, every
run without the others agrees with it.
-/

namespace DashboardClient

variable {α : Type}

-- ---------------------------------------------------------------------------
-- Runs of a script
-- ---------------------------------------------------------------------------

/-- What happens around a clock: one more subscription is made, the owner of one takes a step, a
task takes the step that it has at this instant, or time passes. While it passes, all that falls due
happens. After a tick of the clock, what falls due at the new instant has yet to happen. -/
inductive ClockCommand (α : Type) where
  | subscribe (options : PollOptions) (source : Source α)
  | call (number : Nat) (a : PollAction α) (owners : a.IsOwners)
  | turn (number generation : Nat)
  | tick
  | advance (nanos : Nat)

/-- What the owner is told when it takes a step. -/
def Polled.answer? (p : Polled α) : PollAction α → Option Bool
  | .refresh => some p.subscription.acceptsRefresh
  | _ => none

/-- The task of an activation takes the step that it has, if it has one. -/
def Polled.turn (p : Polled α) (now generation : Nat) : Polled α :=
  match (p.subscription.task? generation).bind (·.step? p.source now) with
  | some a => p.act now a
  | none => p

theorem Polled.Matches.turn {p q : Polled α} (h : p.Matches q) (now generation : Nat) :
    (p.turn now generation).Matches (q.turn now generation) := by
  rw [Polled.turn, Polled.turn, h.subscription, h.source]
  split
  · next a _ => exact h.act now a
  · exact h

namespace PollWorld

variable {w w' v : PollWorld α} {script : List (ClockCommand α)} {c : ClockCommand α}
  {answers : List (Nat × Bool)} {number nanos target : Nat}

/-- What is answered to a command, with the number of the subscription. -/
def answersTo (w : PollWorld α) : ClockCommand α → List (Nat × Bool)
  | .call number a _ => ((w.polled[number]?.bind (·.answer? a)).map (number, ·)).toList
  | _ => []

/-- A task of a subscription takes its step. -/
def turn (w : PollWorld α) (number generation : Nat) : PollWorld α :=
  w.modify number (·.turn w.now generation)

/-- What the scheduler makes of a command. -/
def obey (w : PollWorld α) : ClockCommand α → PollWorld α
  | .subscribe options source => w.subscribe options source
  | .call number a _ => w.act number a
  | .turn number generation => w.turn number generation
  | .tick => (w.advance 0).setClock (w.now + 1)
  | .advance nanos => w.advance nanos

/-- What the scheduler makes of a script. -/
def obeyAll (w : PollWorld α) (script : List (ClockCommand α)) : PollWorld α :=
  script.foldl obey w

/-- What is answered on the way. -/
def answersIn (w : PollWorld α) : List (ClockCommand α) → List (Nat × Bool)
  | [] => []
  | c :: script => w.answersTo c ++ (w.obey c).answersIn script

/-- What any scheduler may make of a command. -/
inductive Obeys (w : PollWorld α) : ClockCommand α → PollWorld α → Prop where
  | subscribe (options : PollOptions) (source : Source α) :
    Obeys w (.subscribe options source) (w.subscribe options source)
  | call (number : Nat) (a : PollAction α) (owners : a.IsOwners) :
    Obeys w (.call number a owners) (w.act number a)
  | turn (number generation : Nat) :
    Obeys w (.turn number generation) (w.turn number generation)
  | tick {w' : PollWorld α} (rests : Advances w.now w w') :
    Obeys w .tick (w'.setClock (w.now + 1))
  | advance {nanos : Nat} {w' : PollWorld α} (advances : Advances (w.now + nanos) w w') :
    Obeys w (.advance nanos) w'

/-- Runs of a script under any scheduler, with the answers that are given on the way. -/
inductive Runs : PollWorld α → List (ClockCommand α) → List (Nat × Bool) → PollWorld α → Prop where
  | done (w : PollWorld α) : Runs w [] [] w
  | next {w w₁ w' : PollWorld α} {c : ClockCommand α} {script : List (ClockCommand α)}
    {answers : List (Nat × Bool)} (first : w.Obeys c w₁) (rest : Runs w₁ script answers w') :
    Runs w (c :: script) (w.answersTo c ++ answers) w'

theorem isLived_empty : ({} : PollWorld α).IsLived :=
  List.forall_mem_nil _

theorem IsLived.turn (h : w.IsLived) (number generation : Nat) :
    (w.turn number generation).IsLived :=
  h.modify number fun p hp => by
    unfold Polled.turn
    split
    · next a _ => exact hp.act w.now a
    · exact hp

theorem Obeys.isLived (h : w.Obeys c w') (hw : w.IsLived) : w'.IsLived := by
  cases h with
  | subscribe options source => exact hw.subscribe options source
  | call number a owners => exact hw.act number a
  | turn number generation => exact hw.turn number generation
  | tick rests => exact (rests.isLived hw).setClock _
  | advance advances => exact advances.isLived hw

theorem obeys_obey (hw : w.IsLived) (c : ClockCommand α) : w.Obeys c (w.obey c) := by
  cases c with
  | subscribe options source => exact .subscribe options source
  | call number a owners => exact .call number a owners
  | turn number generation => exact .turn number generation
  | tick => exact .tick (advances_advanceTo hw (Nat.le_refl _))
  | advance nanos => exact .advance (advances_advanceTo hw (Nat.le_add_right _ _))

/-- The scheduler has a run of every script. -/
theorem runs_obeyAll (hw : w.IsLived) (script : List (ClockCommand α)) :
    Runs w script (w.answersIn script) (w.obeyAll script) := by
  induction script generalizing w with
  | nil => exact .done w
  | cons c script ih =>
    have first := obeys_obey hw c
    exact .next first (ih (first.isLived hw))


-- ---------------------------------------------------------------------------
-- The scheduler does not matter
-- ---------------------------------------------------------------------------

theorem Matches.answersTo (h : w.Matches v) (c : ClockCommand α) :
    w.answersTo c = v.answersTo c := by
  cases c with
  | call number a owners =>
    have hsame : w.polled.map (·.answer? a) = v.polled.map (·.answer? a) :=
      h.map_eq fun p q hpq => by cases a <;> simp [Polled.answer?, hpq.subscription]
    have hasked (w : PollWorld α) : w.polled[number]?.bind (·.answer? a) =
        (w.polled.map (·.answer? a))[number]?.join := by
      rw [List.getElem?_map]
      cases w.polled[number]? <;> rfl
    simp only [PollWorld.answersTo, hasked, hsame]
  | _ => rfl

theorem Obeys.matches_obey (h : w.Obeys c w') (hw : w.IsLived) (hv : w.Matches v) :
    w'.Matches (v.obey c) := by
  cases h with
  | subscribe options source => exact hv.subscribe options source
  | call number a owners => exact hv.act number a
  | turn number generation =>
    rw [obey, PollWorld.turn, PollWorld.turn, hv.now]
    exact hv.modify number fun _ _ hpq => hpq.turn v.now generation
  | tick rests =>
    rw [obey, PollWorld.advance, ← hv.now]
    exact ((rests.matches_advanceTo hw).trans (hv.advanceTo _)).setClock _
  | advance advances =>
    rw [obey, PollWorld.advance, ← hv.now]
    exact (advances.matches_advanceTo hw).trans (hv.advanceTo _)

/-- Runs of one script from worlds that match end in worlds that match, and answer the same. -/
theorem Runs.matches_obeyAll (h : Runs w script answers w') (hw : w.IsLived) (hv : w.Matches v) :
    w'.Matches (v.obeyAll script) ∧ answers = v.answersIn script := by
  induction h generalizing v with
  | done => exact ⟨hv, rfl⟩
  | @next w w₁ w' c script answers first rest ih =>
    obtain ⟨hmatch, hanswers⟩ := ih (first.isLived hw) (first.matches_obey hw hv)
    exact ⟨hmatch, by rw [answersIn, hv.answersTo, hanswers]⟩


-- ---------------------------------------------------------------------------
-- One subscription alone
-- ---------------------------------------------------------------------------

/-- The world without all other subscriptions. -/
def alone (w : PollWorld α) (number : Nat) : PollWorld α :=
  { now := w.now, polled := w.polled[number]?.toList }

/-- Time passes before the rest of a script. -/
def lapse (nanos : Nat) : List (ClockCommand α) → List (ClockCommand α)
  | .advance nanos' :: rest => .advance (nanos + nanos') :: rest
  | rest => .advance nanos :: rest

/-- The script without all other subscriptions, when so many have been made. -/
def only (number made : Nat) : List (ClockCommand α) → List (ClockCommand α)
  | [] => []
  | .subscribe options source :: rest =>
    if made = number then .subscribe options source :: only number (made + 1) rest
    else only number (made + 1) rest
  | .call n a owners :: rest =>
    if n = number then .call 0 a owners :: only number made rest else only number made rest
  | .turn n generation :: rest =>
    if n = number then .turn 0 generation :: only number made rest else only number made rest
  | .tick :: rest => .tick :: only number made rest
  | .advance nanos :: rest => lapse nanos (only number made rest)

/-- The answers that were given to the owner of one subscription. -/
def answersOf (number : Nat) (answers : List (Nat × Bool)) : List Bool :=
  (answers.filter (·.1 = number)).map (·.2)

theorem alone_subscribe (w : PollWorld α) (options : PollOptions) (source : Source α) :
    (w.subscribe options source).alone w.polled.length =
      (w.alone w.polled.length).subscribe options source := by
  simp [alone, subscribe]

theorem alone_subscribe_ne (options : PollOptions) (source : Source α)
    (h : w.polled.length ≠ number) :
    (w.subscribe options source).alone number = w.alone number := by
  rcases Nat.lt_or_gt_of_ne h with hlt | hgt
  · have hle := Nat.le_of_lt hlt
    simp [alone, subscribe, List.getElem?_append_right hle, Nat.sub_ne_zero_of_lt hlt,
      List.getElem?_eq_none hle]
  · simp [alone, subscribe, List.getElem?_append_left hgt]

section

variable (w : PollWorld α) (number : Nat) (f : Polled α → Polled α)

theorem length_modify : (w.modify number f).polled.length = w.polled.length :=
  List.length_modify ..

theorem alone_modify : (w.modify number f).alone number = (w.alone number).modify 0 f := by
  cases hp : w.polled[number]? with
  | none => simp [alone, modify, hp]
  | some p => simp [alone, modify, hp]

theorem alone_modify_ne {n : Nat} (h : n ≠ number) :
    (w.modify n f).alone number = w.alone number := by
  simp [alone, modify, h]

end

theorem answersOf_append (number : Nat) (first rest : List (Nat × Bool)) :
    answersOf number (first ++ rest) = answersOf number first ++ answersOf number rest := by
  simp [answersOf]

/-- The owner is told the same. -/
theorem answersTo_alone (w : PollWorld α) {a : PollAction α} (owners : a.IsOwners) :
    (answersOf number (w.answersTo (.call number a owners))).map (0, ·) =
      (w.alone number).answersTo (.call 0 a owners) := by
  cases hp : w.polled[number]? with
  | none => simp [answersOf, answersTo, alone, hp]
  | some p => cases ha : p.answer? a <;> simp [answersOf, answersTo, alone, hp, ha]

theorem answersOf_call_ne {n : Nat} {a : PollAction α} (owners : a.IsOwners) (h : n ≠ number) :
    answersOf number (w.answersTo (.call n a owners)) = [] := by
  simp only [answersTo, answersOf]
  cases w.polled[n]?.bind (·.answer? a) <;> simp [h]

theorem mem_alone {p : Polled α} (h : p ∈ (w.alone number).polled) : p ∈ w.polled :=
  List.mem_of_getElem? (Option.mem_toList.1 h)

/-- A subscription spends time with others as it does alone. -/
theorem Advances.alone (h : Advances target w w') (number : Nat) :
    Advances target (w.alone number) (w'.alone number) := by
  induction h with
  | reach there rests => exact .reach there fun p hp => rests p (mem_alone hp)
  | @step w w' n p a hp ha _ ih =>
    by_cases hn : n = number
    · subst hn
      rw [act, alone_modify] at ih
      exact .step (by simp [PollWorld.alone, hp]) ha ih
    · rwa [act, alone_modify_ne _ _ _ hn] at ih
  | wait later inside rests _ ih =>
    exact .wait later inside (fun time hnow htime p hp => rests time hnow htime p (mem_alone hp)) ih

theorem Advances.length (h : Advances target w w') : w'.polled.length = w.polled.length := by
  induction h with
  | reach => rfl
  | step _ _ _ ih => exact ih.trans (length_modify ..)
  | wait _ _ _ _ ih => exact ih

theorem Advances.now (h : Advances target w w') : w'.now = target := by
  induction h with
  | reach there => exact there
  | step _ _ _ ih => exact ih
  | wait _ _ _ _ ih => exact ih

/-- Time that passes in two parts passes. -/
theorem Advances.trans {t : Nat} (h : Advances t w w') (hle : t ≤ target)
    (h' : Advances target w' v) : Advances target w v := by
  induction h with
  | reach => exact h'
  | step hp ha _ ih => exact .step hp ha (ih h')
  | wait later inside rests _ ih => exact .wait later (Nat.le_trans inside hle) rests (ih h')

theorem Runs.lapse {w₁ : PollWorld α} (first : Advances (w.now + nanos) w w₁)
    (rest : Runs w₁ script answers w') : Runs w (lapse nanos script) answers w' := by
  cases rest with
  | done => exact .next (.advance first) (.done _)
  | @next _ w₂ _ c script answers second rest =>
    cases second with
    | @advance nanos' _ advances =>
      have hnow : w₁.now + nanos' = w.now + (nanos + nanos') := by rw [first.now, Nat.add_assoc]
      have hle : w.now + nanos ≤ w.now + (nanos + nanos') := by omega
      rw [hnow] at advances
      exact .next (.advance (first.trans hle advances)) rest
    | subscribe options source =>
      exact .next (.advance first) (.next (.subscribe options source) rest)
    | call number a owners => exact .next (.advance first) (.next (.call number a owners) rest)
    | turn number generation =>
      exact .next (.advance first) (.next (.turn number generation) rest)
    | tick rests => exact .next (.advance first) (.next (.tick rests) rest)

/-- Leave all other subscriptions out of a run, and a run is left. -/
theorem Runs.alone (h : Runs w script answers w') (number : Nat) :
    Runs (w.alone number) (only number w.polled.length script)
      ((answersOf number answers).map (0, ·)) (w'.alone number) := by
  induction h with
  | done w => exact .done _
  | @next w w₁ w' c script answers first rest ih =>
    cases first with
    | subscribe options source =>
      have hlength : (w.subscribe options source).polled.length = w.polled.length + 1 :=
        List.length_append
      rw [hlength] at ih
      rw [only]
      split
      · next hmade =>
        subst hmade
        rw [alone_subscribe] at ih
        exact .next (.subscribe options source) ih
      · next hother => rwa [alone_subscribe_ne options source hother] at ih
    | call n a owners =>
      rw [act, length_modify] at ih
      rw [only]
      split
      · next hn =>
        subst hn
        rw [alone_modify] at ih
        rw [answersOf_append, List.map_append, answersTo_alone]
        exact .next (.call 0 a owners) ih
      · next hn =>
        rw [alone_modify_ne _ _ _ hn] at ih
        rwa [answersOf_append, answersOf_call_ne owners hn]
    | turn n generation =>
      rw [turn, length_modify] at ih
      rw [only]
      split
      · next hn =>
        subst hn
        rw [alone_modify] at ih
        exact .next (.turn 0 generation) ih
      · next hn => rwa [alone_modify_ne _ _ _ hn] at ih
    | @tick w' rests =>
      have hlength : (w'.setClock (w.now + 1)).polled.length = w.polled.length := rests.length
      rw [hlength] at ih
      exact .next (.tick (rests.alone number)) ih
    | advance advances =>
      rw [advances.length] at ih
      exact .lapse (advances.alone number) ih


-- ---------------------------------------------------------------------------
-- Isolation
-- ---------------------------------------------------------------------------

/-- Wherever a run stands, each subscription stands where every run without the others stands
after the same calls at the same times: its snapshot with its version, its tasks and settings are
the same, its retrievals started and settled at the same times, only discards of one time may be
reported in another order, and its owner was given the same answers. There are such runs. -/
theorem subscriptions_are_isolated {script : List (ClockCommand α)} {answers : List (Nat × Bool)}
    {w : PollWorld α} (run : Runs {} script answers w) {number : Nat} {p : Polled α}
    (hp : w.polled[number]? = some p) :
    (∃ answers' w', Runs {} (only number 0 script) answers' w') ∧
      ∀ answers' w', Runs {} (only number 0 script) answers' w' →
        ∃ p' : Polled α, w'.polled = [p'] ∧ w'.now = w.now ∧ p'.source = p.source ∧
          p'.subscription = p.subscription ∧ seenIn p'.history = seenIn p.history ∧
          p'.history.Perm p.history ∧ answers'.map (·.2) = answersOf number answers := by
  have halone : Runs {} (only number 0 script) ((answersOf number answers).map (0, ·))
      (w.alone number) := run.alone number
  refine ⟨⟨_, _, halone⟩, fun answers' w' run' => ?_⟩
  obtain ⟨hmatch, hanswers⟩ := halone.matches_obeyAll isLived_empty (.refl _)
  obtain ⟨hmatch', hanswers'⟩ := run'.matches_obeyAll isLived_empty (.refl _)
  have hpolled : (w.alone number).polled = [p] := by simp [PollWorld.alone, hp]
  -- Both runs end where the scheduler takes the subscription alone.
  obtain ⟨q, hq, hscheduled⟩ : ∃ q : Polled α, p.Matches q ∧
      (({} : PollWorld α).obeyAll (only number 0 script)).polled = [q] := by
    have hone := hmatch.polled
    rw [hpolled] at hone
    generalize (({} : PollWorld α).obeyAll (only number 0 script)).polled = qs at hone
    cases hone with
    | @cons _ q _ _ hq hnil =>
      cases hnil
      exact ⟨q, hq, rfl⟩
  have hone' := hmatch'.polled
  rw [hscheduled] at hone'
  generalize hw' : w'.polled = ps at hone'
  cases hone' with
  | @cons p' _ _ _ hp' hnil =>
    cases hnil
    have hsame : p'.Matches p := hp'.trans hq.symm
    refine ⟨p', rfl, hmatch'.now.trans hmatch.now.symm, hsame.source, hsame.subscription,
      hsame.seen, hsame.happened, ?_⟩
    rw [hanswers', ← hanswers, List.map_map]
    exact List.map_id _

/-- The owner of a subscription changes its key while a retrieval is in flight, and stops polling at
the instant at which another one settles, before it does. A neighbour that was made before it never
gets an answer and is dropped, and one that was made later always fails. -/
theorem isolated_from_hanging_and_failing_neighbours :
    let ms := millisecond
    let options : PollOptions := { interval := ⟨10 * ms, by decide⟩ }
    let hanging : Source Nat := fun n => ⟨none, .ok n⟩
    let slow : Source Nat := fun n => ⟨some (7 * ms), .ok n⟩
    let failing : Source Nat := fun _ => ⟨some (10 * ms), .error (.failed "down")⟩
    let script : List (ClockCommand Nat) :=
      [.subscribe options hanging, .advance (3 * ms), .subscribe options slow, .advance (4 * ms),
        .subscribe options failing, .call 1 (.setResyncKey (some "b")) trivial, .advance (4 * ms),
        .call 0 .drop trivial, .call 1 .refresh trivial, .advance (24 * ms - 1), .tick, .turn 2 1,
        .call 1 (.setEnabled false) trivial, .turn 1 3]
    let alone : List (ClockCommand Nat) :=
      [.advance (3 * ms), .subscribe options slow, .advance (4 * ms),
        .call 0 (.setResyncKey (some "b")) trivial, .advance (4 * ms), .call 0 .refresh trivial,
        .advance (24 * ms - 1), .tick, .call 0 (.setEnabled false) trivial, .turn 0 3]
    let w := ({} : PollWorld Nat).obeyAll script
    only 1 0 script = alone ∧
      ∃ p, w.polled[1]? = some p ∧ p.subscription.started = 5 ∧
        p.subscription.snapshot.data = some 4 ∧
        ∀ answers' w', Runs {} alone answers' w' →
          ∃ p' : Polled Nat, w'.polled = [p'] ∧ p'.subscription = p.subscription ∧
            p'.history.Perm p.history ∧ answers'.map (·.2) = [true] := by
  intro ms options hanging slow failing script alone w
  have hfound : w.polled[1]?.map (fun p => (p.subscription.started, p.subscription.snapshot.data)) =
      some (5, some 4) := by decide +kernel
  have hanswers : ({} : PollWorld Nat).answersIn script = [(1, true)] := by decide +kernel
  obtain ⟨p, hp, hstands⟩ := Option.map_eq_some_iff.1 hfound
  obtain ⟨hstarted, hdata⟩ := Prod.mk.inj hstands
  have run : Runs {} script [(1, true)] w := hanswers ▸ runs_obeyAll isLived_empty script
  refine ⟨rfl, p, hp, hstarted, hdata, fun answers' w' run' => ?_⟩
  obtain ⟨p', hpolled, _, _, hsame, _, hhappened, htold⟩ :=
    (subscriptions_are_isolated run hp).2 answers' w' run'
  exact ⟨p', hpolled, hsame, hhappened, htold⟩

end PollWorld

end DashboardClient
