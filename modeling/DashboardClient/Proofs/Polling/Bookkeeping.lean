import DashboardClient.Proofs.Polling.SnapshotMeaning
import Mathlib.Algebra.Ring.Parity

/-!
# The bookkeeping of activations

Whether a subscription polls is written down in five places: what its owner set, whether there
is a current activation, the flag in the snapshot, whether the generation is odd, and the
generation that the activation remembers. They agree in every life. The generation is raised
by one with each activation and each deactivation and by nothing else, so a step of the owner
raises it by as much as it starts and stops, and a step of a task never does. As long as it does
not outgrow them, counters of 64 bits tell generations apart.
-/

namespace DashboardClient

variable {α : Type}

namespace Subscription

variable {s s' : Subscription α} {now : Nat} {es : List (PollEvent α)}

-- ---------------------------------------------------------------------------
-- Odd generations
-- ---------------------------------------------------------------------------

/-- Generations are counted from zero, where nothing is active, so the odd ones are those of
activations. -/
def IsCounted (s : Subscription α) : Prop :=
  Odd s.generation ↔ s.isActive = true

theorem IsBlank.isCounted (h : s.IsBlank) : s.IsCounted := by
  obtain ⟨hw, ha, _, _⟩ := h
  simp [IsCounted, generation, snapshot, isActive, hw, ha]

theorem Move.isCounted (hm : Move now s s' es) (h : s.IsCounted) : s'.IsCounted := by
  cases hm with
  | activate inactive =>
    have heven : ¬Odd s.generation := by simpa [isActive, inactive] using h.not
    rw [IsCounted, generation_activate, isActive, activation_activate, Nat.odd_add_one]
    simp [heven]
  | deactivate active =>
    have hodd : Odd s.generation := h.2 (by simp [isActive, active])
    rw [IsCounted, generation_deactivate active, isActive, activation_deactivate, Nat.odd_add_one]
    simp [hodd]
  | refresh active =>
    have hframe : s.refresh.generation = s.generation ∧ s.refresh.isActive = s.isActive := by
      simp [Subscription.refresh, active, generation, snapshot, isActive]
    rw [IsCounted, hframe.1, hframe.2]
    exact h
  | apply outcome =>
    rw [IsCounted, put_generation, applyOutcome_generation]
    exact h
  | _ => exact h

theorem isCounted_life (options : PollOptions) (born : Nat)
    (actions : List (Nat × PollAction α)) : (life options born actions).1.IsCounted :=
  life_induct (P := fun s _ => s.IsCounted) IsBlank.isCounted
    (fun _ h hm => hm.isCounted h) options born actions


-- ---------------------------------------------------------------------------
-- How far a step raises the generation
-- ---------------------------------------------------------------------------

/-- By how much a step raises the generation. Setting what is set already, changing the key
while polling is disabled and everything that tasks do raise it by nothing. -/
def gain (s : Subscription α) : PollAction α → Nat
  | .setEnabled enabled => if s.dropped ∨ enabled = s.enabled then 0 else 1
  | .setResyncKey key => if s.dropped ∨ key = s.resyncKey ∨ ¬s.enabled then 0 else 2
  | .drop => if s.dropped ∨ ¬s.enabled then 0 else 1
  | .refresh => 0
  | .turn _ => 0
  | .settle _ _ => 0

theorem generation_turn (s : Subscription α) (now g : Nat) :
    (s.turn now g).1.generation = s.generation := by
  unfold turn
  split
  · rfl
  · split <;> rfl

theorem generation_settle (s : Subscription α) (now n : Nat)
    (outcome : Except RetrievalError α) :
    (s.settle now n outcome).1.generation = s.generation := by
  unfold settle
  split
  · rfl
  · next t _ =>
    split
    · split
      · exact applyOutcome_generation s t now outcome
      · rfl
    · rfl

theorem generation_refresh (s : Subscription α) : s.refresh.generation = s.generation := by
  unfold Subscription.refresh
  split <;> rfl

/-- An enabled subscription that its owner still has is active, so there is something to end. -/
theorem IsBookkept.generation_deactivate (h : s.IsBookkept) (kept : s.dropped = false) :
    s.deactivate.1.generation = s.generation + if s.enabled then 1 else 0 := by
  rw [IsBookkept, kept, Bool.not_false, Bool.and_true] at h
  cases ha : s.activation with
  | none =>
    have hoff : s.enabled = false := by simpa [isActive, ha] using h.symm
    simp [deactivate, ha, hoff]
  | some g =>
    have hon : s.enabled = true := by simpa [isActive, ha] using h.symm
    rw [Subscription.generation_deactivate ha, hon, if_pos rfl]

theorem IsBookkept.generation_setEnabled (h : s.IsBookkept) (kept : s.dropped = false)
    (enabled : Bool) :
    (s.setEnabled enabled).1.generation =
      s.generation + if enabled = s.enabled then 0 else 1 := by
  unfold Subscription.setEnabled
  by_cases hsame : enabled = s.enabled
  · simp [hsame]
  · rw [if_neg (Ne.symm hsame), if_neg hsame]
    cases enabled with
    | true => rfl
    | false =>
      have hon : s.enabled = true := by simpa using hsame
      -- The flag is cleared before the activation is looked at, so the activation decides.
      obtain ⟨g, ha⟩ : ∃ g, s.activation = some g := by
        rw [IsBookkept, kept, hon] at h
        exact Option.isSome_iff_exists.1 h
      exact Subscription.generation_deactivate (s := { s with enabled := false }) ha

theorem IsBookkept.generation_setResyncKey (h : s.IsBookkept) (kept : s.dropped = false)
    (key : Option String) :
    (s.setResyncKey key).1.generation =
      s.generation + if key = s.resyncKey ∨ ¬s.enabled then 0 else 2 := by
  unfold Subscription.setResyncKey
  by_cases hsame : key = s.resyncKey
  · simp [hsame]
  · have hne : ¬s.resyncKey = key := fun he => hsame he.symm
    cases hon : s.enabled with
    | false => simp [hne, hsame, generation, snapshot]
    | true =>
      have hset : ({ s with resyncKey := key } : Subscription α).IsBookkept := h
      have hstop := hset.generation_deactivate kept
      simp only [hon, if_true] at hstop
      simp only [hne, hsame, if_false, if_true, not_true_eq_false, or_self]
      rw [generation_activate, hstop]
      rfl

/-- A step raises the generation by as much as it starts and stops. -/
theorem IsBookkept.generation_act (h : s.IsBookkept) (now : Nat) (a : PollAction α) :
    (s.act now a).1.generation = s.generation + s.gain a := by
  cases a with
  | turn g => exact generation_turn s now g
  | settle n outcome => exact generation_settle s now n outcome
  | setEnabled enabled =>
    cases hd : s.dropped with
    | true => simp [Subscription.act, gain, hd]
    | false => simpa [Subscription.act, gain, hd] using h.generation_setEnabled hd enabled
  | setResyncKey key =>
    cases hd : s.dropped with
    | true => simp [Subscription.act, gain, hd]
    | false => simpa [Subscription.act, gain, hd] using h.generation_setResyncKey hd key
  | refresh =>
    cases hd : s.dropped with
    | true => simp [Subscription.act, gain, hd]
    | false => simpa [Subscription.act, gain, hd] using generation_refresh s
  | drop =>
    cases hd : s.dropped with
    | true => simp [Subscription.act, gain, hd]
    | false =>
      have hstop := h.generation_deactivate hd
      simp only [Subscription.act, gain, hd, Bool.false_eq_true, if_false, false_or]
      refine Eq.trans hstop ?_
      cases s.enabled <;> rfl


-- ---------------------------------------------------------------------------
-- Generations in 64 bits
-- ---------------------------------------------------------------------------

/-- What is left of a generation in a counter of 64 bits, which may wrap around. -/
def word (generation : Nat) : Nat :=
  (UInt64.ofNat generation).toNat

/-- The subscription with 64 bits of each generation: the snapshot's, the activation's and those
of the tasks. -/
def inWords (s : Subscription α) : Subscription α :=
  { s with
    watched := { s.watched with value := { s.snapshot with generation := word s.generation } }
    activation := s.activation.map word
    tasks := s.tasks.map fun t => { t with generation := word t.generation } }

/-- The subscription after steps that each leave 64 bits of the generations. -/
def actAllInWords (s : Subscription α) (actions : List (Nat × PollAction α)) : Subscription α :=
  actions.foldl (fun s a => (s.act a.1 a.2).1.inWords) s

/-- Nothing is lost as long as the generation of the snapshot has 64 bits, because no other one
is above it. -/
theorem IsOrderly.inWords_eq (h : s.IsOrderly) (few : s.generation < UInt64.size) :
    s.inWords = s := by
  have hword {g : Nat} (hle : g ≤ s.generation) : word g = g :=
    UInt64.toNat_ofNat_of_lt' (Nat.lt_of_le_of_lt hle few)
  have hsnapshot : { s.snapshot with generation := word s.generation } = s.snapshot := by
    rw [hword (Nat.le_refl _)]
    rfl
  have hactivation : s.activation.map word = s.activation := by
    cases ha : s.activation with
    | none => rfl
    | some g => rw [Option.map_some, hword (Nat.le_of_eq (h.newest g ha))]
  have htasks : s.tasks.map (fun t => { t with generation := word t.generation }) = s.tasks :=
    (List.map_congr_left fun t ht => by rw [hword (h.bounded t ht)]; rfl).trans (List.map_id _)
  rw [inWords, hsnapshot, hactivation, htasks]
  rfl

/-- Counters of 64 bits do for every life in which the generation does not outgrow them. -/
theorem actAllInWords_eq_life (options : PollOptions) (born : Nat)
    (actions : List (Nat × PollAction α))
    (few : (life options born actions).1.generation < UInt64.size) :
    (new options).1.inWords.actAllInWords actions = (life options born actions).1 := by
  have hsame := (isOrderly_life options born actions).inWords_eq few
  induction actions using List.reverseRecOn with
  | nil => exact hsame
  | append_singleton actions last ih =>
    have hfewer := Nat.lt_of_le_of_lt (generation_life_le options born actions [last]) few
    have hbefore := ih hfewer ((isOrderly_life options born actions).inWords_eq hfewer)
    rw [actAllInWords, List.foldl_append]
    show ((actAllInWords _ actions).act last.1 last.2).1.inWords = _
    rw [hbefore]
    rwa [life_snoc] at hsame ⊢


-- ---------------------------------------------------------------------------
-- The five places
-- ---------------------------------------------------------------------------

/-- Whatever the owner and the tasks do: while the owner has the subscription, it is active
exactly if it is enabled, and the snapshot's flag, the parity of the generation and the answer to
a request to refresh all say the same. The activation has the generation of the snapshot, and
only an active subscription loads for the first time. A new subscription has generation one or
zero, and every step raises it by its gain. Once the owner has let go, nothing is active. -/
theorem activation_bookkeeping (options : PollOptions) (born : Nat)
    (actions : List (Nat × PollAction α)) :
    let s := (life options born actions).1
    (s.dropped = false →
      s.isActive = s.enabled ∧ s.snapshot.active = s.enabled ∧
        (Odd s.generation ↔ s.enabled = true) ∧ s.acceptsRefresh = s.enabled) ∧
    (∀ g, s.activation = some g → g = s.generation) ∧
    (s.snapshot.initialLoading = true → s.snapshot.active = true) ∧
    (s.acceptsRefresh = true ↔ s.snapshot.active = true) ∧
    (new (α := α) options).1.generation = (if options.enabled then 1 else 0) ∧
    (∀ now a, (s.act now a).1.generation = s.generation + s.gain a) ∧
    (∀ before later, actions = before ++ later →
      (life options born before).1.generation ≤ s.generation) ∧
    (s.dropped = true →
      s.isActive = false ∧ s.snapshot.active = false ∧ s.snapshot.initialLoading = false ∧
        Even s.generation) := by
  intro s
  have hbook : s.isActive = (s.enabled && !s.dropped) := isBookkept_life options born actions
  have hcount : Odd s.generation ↔ s.isActive = true := isCounted_life options born actions
  have hexplained := isExplained_life options born actions
  have hflag : s.snapshot.active = s.isActive := hexplained.active
  have hloading : s.snapshot.initialLoading = true → s.isActive = true := by
    rw [hexplained.loading, Bool.and_eq_true]
    exact And.left
  refine ⟨?_, (isOrderly_life options born actions).newest, ?_, ?_, ?_, ?_, ?_, ?_⟩
  · intro kept
    have hon : s.isActive = s.enabled := by rw [hbook, kept, Bool.not_false, Bool.and_true]
    exact ⟨hon, hflag.trans hon, hon ▸ hcount, hon⟩
  · rw [hflag]
    exact hloading
  · rw [hflag]
    exact Iff.rfl
  · unfold new
    cases options.enabled <;> rfl
  · exact (isBookkept_life options born actions).generation_act
  · rintro before later rfl
    exact generation_life_le options born before later
  · intro dropped
    have hoff : s.isActive = false := by rw [hbook, dropped, Bool.not_true, Bool.and_false]
    refine ⟨hoff, hflag.trans hoff, ?_, ?_⟩
    · simpa [hoff] using hloading
    · rw [← Nat.not_odd_iff_even, hcount, hoff]
      exact Bool.false_ne_true

/-- The key changes before the first retrieval has settled, and the owner lets go after a pause
in which the key changes once more. -/
theorem activation_bookkeeping_over_pause :
    let ms := millisecond
    let options : PollOptions := { interval := ⟨10 * ms, by decide⟩ }
    let before : List (Nat × PollAction Nat) := [(0, .turn 1), (ms, .setResyncKey (some "b"))]
    let later : List (Nat × PollAction Nat) :=
      [(2 * ms, .settle 1 (.ok 7)), (3 * ms, .setEnabled false),
       (4 * ms, .setResyncKey (some "c")), (5 * ms, .drop)]
    let s := (life options 0 before).1
    let ended := (life options 0 (before ++ later)).1
    (s.isActive = true ∧ Odd s.generation ∧ s.acceptsRefresh = true) ∧
      s.generation = 3 ∧ s.snapshot.active = true ∧
      (s.act (2 * ms) (.setResyncKey (some "c"))).1.generation = 5 ∧
      s.generation ≤ ended.generation ∧ ended.snapshot.active = false ∧ Even ended.generation := by
  intro ms options before later s ended
  obtain ⟨hkept, hnewest, hloading, _, _, hgain, _, _⟩ := activation_bookkeeping options 0 before
  obtain ⟨_, _, _, _, _, _, hmono, hdropped⟩ :=
    activation_bookkeeping options 0 (before ++ later)
  have hgeneration : s.generation = 3 :=
    (hnewest 3 (by decide +kernel)).symm
  refine ⟨?_, hgeneration, hloading (by decide +kernel), ?_, hmono before later rfl, ?_⟩
  · obtain ⟨hactive, _, hodd, haccepts⟩ := hkept (by decide +kernel)
    exact ⟨hactive, hodd.2 (by decide +kernel), haccepts⟩
  · have hsteps : s.gain (.setResyncKey (some "c")) = 2 := by decide +kernel
    rw [hgain, hsteps, hgeneration]
  · obtain ⟨_, hflag, _, heven⟩ := hdropped (by decide +kernel)
    exact ⟨hflag, heven⟩

end Subscription

end DashboardClient
