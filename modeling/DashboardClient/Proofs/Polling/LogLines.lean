import DashboardClient.Proofs.Polling.Notifications

/-!
# The log of a subscription

What a subscription logs tells the course of its outcomes. The first failure of a run is a warning,
and each one after it, until a success or another activation ends the run, is logged for debugging
only. Outcomes that come too late are logged one by one, and between them activations and their ends
alternate.

Whether a failure is the first of its run is decided by the error in the snapshot. An activation
clears it and so does a success, but the end of an activation keeps it, so it tells of a run only
while the subscription is active.
-/

namespace DashboardClient

variable {α : Type}

deriving instance DecidableEq for PollEvent

-- ---------------------------------------------------------------------------
-- Lines
-- ---------------------------------------------------------------------------

/-- The line of a failure that begins a run. -/
def warningLine (generation : Nat) (error : RetrievalError) : LogLine :=
  ⟨.warn, "retrieval failed; keeping last data",
    [("generation", .shown (toString generation)), ("error", .shown error.message),
     ("code", .text error.code)]⟩

/-- The line of a failure that goes on with a run. -/
def repetitionLine (generation : Nat) (error : RetrievalError) : LogLine :=
  ⟨.debug, "retrieval still failing",
    [("generation", .shown (toString generation)), ("error", .shown error.message)]⟩

/-- The line of an outcome that comes too late. -/
def discardLine (generation : Nat) : LogLine :=
  ⟨.debug, "discarding retrieval that settled after deactivation",
    [("generation", .shown (toString generation))]⟩

namespace LogLine

/-- The line tells of a failure. -/
def tellsFailure (line : LogLine) : Prop :=
  line.message = "retrieval failed; keeping last data" ∨ line.message = "retrieval still failing"

/-- The line tells of an outcome that comes too late. -/
def tellsDiscard (line : LogLine) : Bool :=
  line.message == "discarding retrieval that settled after deactivation"

/-- What a line says of an activation that begins or ends: which of the two, and its generation. -/
def announces? (line : LogLine) : Option (String × Option LogValue) :=
  if line.message = "polling activated" ∨ line.message = "polling deactivated" then
    some (line.message, line.fields.lookup "generation")
  else none

end LogLine

/-- What is announced when the generation is raised for the time numbered `k`, from zero on: the
activations have odd generations, and each one ends before the next. -/
def announcement (k : Nat) : String × Option LogValue :=
  if Even k then ("polling activated", some (.shown (toString (k + 1))))
  else ("polling deactivated", some (.shown (toString k)))

namespace PollEvent

/-- The outcome that is applied, with the generation of its activation. -/
def outcomeOf? : PollEvent α → Option (Nat × Except RetrievalError α)
  | .succeeded _ generation value => some (generation, .ok value)
  | .failed _ generation e _ => some (generation, .error e)
  | _ => none

/-- The number and the activation of the retrieval whose outcome is discarded. -/
def discarded? : PollEvent α → Option (Nat × Nat)
  | .discarded number generation => some (number, generation)
  | _ => none

theorem outcomeOf?_eq_none {e : PollEvent α} (h : e.number? = none) : e.outcomeOf? = none := by
  cases e with
  | succeeded | failed => cases h
  | _ => rfl

theorem discarded?_eq_none {e : PollEvent α} (h : e.number? = none) : e.discarded? = none := by
  cases e with
  | discarded => cases h
  | _ => rfl

/-- What settles is applied or discarded. -/
theorem settled?_eq_some_iff {e : PollEvent α} {n : Nat} :
    e.settled? = some n ↔ e.applied? = some n ∨ ∃ g, e.discarded? = some (n, g) := by
  cases e <;> simp [settled?, applied?, discarded?]

theorem line?_failed (n g : Nat) (error : RetrievalError) (fresh : Bool) :
    (failed n g error fresh : PollEvent α).line? =
      some (if fresh then warningLine g error else repetitionLine g error) := by
  cases fresh <;> rfl

/-- Lines of failures are those of outcomes that are applied. -/
theorem tellsFailure_iff (e : PollEvent α) :
    (∃ line ∈ e.line?, line.tellsFailure) ↔ ∃ g error, e.outcomeOf? = some (g, .error error) := by
  cases e with
  | failed n g error fresh =>
    refine iff_of_true ⟨_, line?_failed n g error fresh, ?_⟩ ⟨g, error, rfl⟩
    cases fresh
    · exact .inr rfl
    · exact .inl rfl
  | _ => simp [line?, outcomeOf?, LogLine.tellsFailure]

theorem filter_tellsDiscard_line? (e : PollEvent α) :
    e.line?.toList.filter (·.tellsDiscard) =
      (e.discarded?.map fun d => discardLine d.2).toList := by
  cases e with
  | failed n g error fresh => cases fresh <;> rfl
  | _ => rfl

/-- An event that is about no retrieval announces something. -/
theorem announces_of_number?_eq_none {e : PollEvent α} (h : e.number? = none) :
    ∃ line, e.line? = some line ∧ line.announces?.isSome = true := by
  cases e with
  | activated g key ms => exact ⟨_, rfl, rfl⟩
  | deactivated g => exact ⟨_, rfl, rfl⟩
  | _ => cases h

theorem announces_of_number?_ne_none {e : PollEvent α} (h : e.number? ≠ none) :
    e.line?.bind (·.announces?) = none := by
  cases e with
  | activated | deactivated => exact absurd rfl h
  | failed n g error fresh => cases fresh <;> rfl
  | _ => rfl

end PollEvent

namespace Subscription

variable {s s' : Subscription α} {now : Nat} {es : List (PollEvent α)} {e : PollEvent α}
  {history : List (Nat × PollEvent α)} {n g : Nat}

/-- The lines that are logged, each with its instant. -/
def logIn (history : List (Nat × PollEvent α)) : List (Nat × LogLine) :=
  history.filterMap fun e => e.2.line?.map (e.1, ·)

/-- The last outcome that was applied is a failure of this activation: a run of failures is under
way in it. -/
def IsFailing (history : List (Nat × PollEvent α)) (generation : Nat) : Prop :=
  ∃ error, (history.filterMap (·.2.outcomeOf?)).getLast? = some (generation, .error error)

instance (history : List (Nat × PollEvent α)) (generation : Nat) :
    Decidable (IsFailing history generation) :=
  decidable_of_iff ((history.filterMap (·.2.outcomeOf?)).getLast?.any fun o =>
      o.1 == generation && (failureMessage? o.2).isSome) <| by
    rw [IsFailing, Option.any_eq_true]
    constructor
    · rintro ⟨⟨g, outcome⟩, hlast, ho⟩
      cases outcome with
      | ok value => simp [failureMessage?] at ho
      | error error => exact ⟨error, by simpa [failureMessage?, hlast] using ho⟩
    · rintro ⟨error, hlast⟩
      exact ⟨_, hlast, by simp [failureMessage?]⟩

/-- What was announced, in order. -/
def announcementsIn (history : List (Nat × PollEvent α)) : List (String × Option LogValue) :=
  history.filterMap fun e => e.2.line?.bind (·.announces?)

/-- The retrievals whose outcomes were discarded, in order. -/
def discardsIn (history : List (Nat × PollEvent α)) : List (Nat × Nat) :=
  history.filterMap (·.2.discarded?)

theorem announcementsIn_eq (history : List (Nat × PollEvent α)) :
    announcementsIn history = (logIn history).filterMap (·.2.announces?) := by
  rw [logIn, List.filterMap_filterMap, announcementsIn]
  refine List.filterMap_congr fun e _ => ?_
  cases e.2.line? <;> rfl


-- ---------------------------------------------------------------------------
-- Runs of failures
-- ---------------------------------------------------------------------------

/-- While a subscription is active, the error in its snapshot says whether a run of failures is
under way, and every failure was logged accordingly. -/
structure IsNarrated (s : Subscription α) (history : List (Nat × PollEvent α)) : Prop where
  bounded : ∀ o ∈ history.filterMap (·.2.outcomeOf?), o.1 ≤ s.generation
  failing : ∀ g, s.activation = some g → (s.snapshot.error ≠ none ↔ IsFailing history g)
  fresh : ∀ before instant n g error fresh after,
    history = before ++ (instant, .failed n g error fresh) :: after →
      (fresh = true ↔ ¬IsFailing before g)

theorem IsBlank.isNarrated (h : s.IsBlank) : s.IsNarrated [] := by
  constructor
  case bounded => simp
  case failing => simp [h.activation]
  case fresh => simp

/-- An outcome decides whether its activation is failing. -/
theorem isFailing_snoc (h : e.outcomeOf? = some (g, outcome)) (instant : Nat) :
    IsFailing (history ++ [(instant, e)]) g ↔ failureMessage? outcome ≠ none := by
  cases outcome <;> simp [IsFailing, h, failureMessage?]

/-- An element of a list that goes on stands in the old part or in the new one. -/
theorem split_append {β : Type} {xs ys before after : List β} {x : β}
    (h : xs ++ ys = before ++ x :: after) :
    (∃ more, xs = before ++ x :: more) ∨
      ∃ first, before = xs ++ first ∧ ys = first ++ x :: after := by
  rcases List.append_eq_append_iff.1 h with ⟨first, hbefore, hys⟩ | ⟨more, hxs, hmore⟩
  · exact .inr ⟨first, hbefore, hys⟩
  · cases more with
    | nil => exact .inr ⟨[], by simpa using hxs.symm, hmore.symm⟩
    | cons y more =>
      obtain ⟨rfl, _⟩ := List.cons.inj hmore
      exact .inl ⟨more, hxs⟩

/-- Events that apply nothing say nothing about runs. -/
theorem IsNarrated.quiet (h : s.IsNarrated history) (hg : s.generation ≤ s'.generation)
    (ha : ∀ g, s'.activation = some g →
      (s'.snapshot.error ≠ none ↔ IsFailing history g))
    (none : ∀ e ∈ es, e.outcomeOf? = none) : s'.IsNarrated (history ++ es.map (now, ·)) := by
  have hsame : (history ++ es.map (now, ·)).filterMap (·.2.outcomeOf?) =
      history.filterMap (·.2.outcomeOf?) := filterMap_quiet none now history
  constructor
  case bounded =>
    rw [hsame]
    exact fun o ho => Nat.le_trans (h.bounded o ho) hg
  case failing =>
    simp only [IsFailing, hsame]
    exact ha
  case fresh =>
    intro before instant n g error fresh after hsplit
    rcases split_append hsplit with ⟨more, rfl⟩ | ⟨first, _, hes⟩
    · exact h.fresh before instant n g error fresh more rfl
    · have hmem : (instant, PollEvent.failed n g error fresh) ∈ es.map (now, ·) := by
        rw [hes]
        exact List.mem_append_cons_self
      obtain ⟨e, he, heq⟩ := List.mem_map.1 hmem
      obtain ⟨rfl, rfl⟩ := Prod.mk.inj heq
      cases none _ he

theorem IsNarrated.apply (h : s.IsNarrated history) (ho : s.IsOrderly) {t : PollTask}
    {number due : Nat} (outcome : Except RetrievalError α)
    (found : s.task? t.generation = some t) (current : s.generation = t.generation) :
    ((s.applyOutcome t now outcome).put t.generation
      (some { t.afterFirst with phase := .waiting due })).IsNarrated
      (history ++ [s.outcomeEvent number t.generation outcome].map (now, ·)) := by
  have hactive : s.activation = some t.generation :=
    ho.current t (mem_of_task? found) current.symm
  have houtcome : (s.outcomeEvent number t.generation outcome).outcomeOf? =
      some (t.generation, outcome) := by
    cases outcome <;> rfl
  have hgeneration : ((s.applyOutcome t now outcome).put t.generation
      (some { t.afterFirst with phase := .waiting due })).generation = s.generation :=
    applyOutcome_generation s t now outcome
  have herror : ((s.applyOutcome t now outcome).put t.generation
      (some { t.afterFirst with phase := .waiting due })).snapshot.error =
        failureMessage? outcome := by
    cases outcome <;> rfl
  constructor
  case bounded =>
    intro o ho
    rw [hgeneration]
    rw [List.map_singleton, List.filterMap_append, List.mem_append] at ho
    rcases ho with ho | ho
    · exact h.bounded o ho
    · obtain rfl : o = (t.generation, outcome) := by simpa [houtcome] using ho
      exact Nat.le_of_eq current.symm
  case failing =>
    intro g hg
    obtain rfl : t.generation = g := Option.some.inj (hactive.symm.trans hg)
    rw [herror, List.map_singleton, isFailing_snoc houtcome]
  case fresh =>
    intro before instant n g error fresh after hsplit
    rcases split_append hsplit with ⟨more, rfl⟩ | ⟨first, rfl, hes⟩
    · exact h.fresh before instant n g error fresh more rfl
    · obtain ⟨rfl, hevent⟩ : first = [] ∧
          .failed n g error fresh = s.outcomeEvent number t.generation outcome := by
        cases first with
        | nil => exact ⟨rfl, (Prod.mk.inj (List.cons.inj hes).1).2.symm⟩
        | cons x first => cases first <;> simp at hes
      rw [List.append_nil]
      cases outcome with
      | ok value => cases hevent
      | error e =>
        obtain ⟨_, rfl, _, rfl⟩ := PollEvent.failed.inj hevent
        rw [← h.failing _ hactive, not_not, Option.isNone_iff_eq_none]

theorem Move.isNarrated (hm : Move now s s' es) (ho : s.IsOrderly) (h : s.IsNarrated history) :
    s'.IsNarrated (history ++ es.map (now, ·)) := by
  cases hm with
  | activate inactive =>
    refine h.quiet (Nat.le_succ _) ?_ fun e he =>
      PollEvent.outcomeOf?_eq_none (areQuiet_activate s e he)
    intro g hg
    obtain rfl : s.generation + 1 = g := Option.some.inj hg
    -- The error is cleared, and no outcome is of a generation to come.
    refine iff_of_false (fun herror => herror rfl) ?_
    rintro ⟨error, hlast⟩
    exact Nat.not_succ_le_self _ (h.bounded _ (List.mem_of_getLast? hlast))
  | deactivate active =>
    refine h.quiet ?_ ?_ fun e he => PollEvent.outcomeOf?_eq_none (areQuiet_deactivate s e he)
    · rw [generation_deactivate active]
      exact Nat.le_succ _
    · simp [activation_deactivate]
  | refresh active =>
    refine h.quiet ?_ ?_ (by simp)
    · rw [generation_refresh]
    · simpa [Subscription.refresh, active, snapshot] using h.failing _ active
  | apply outcome found _ current => exact h.apply ho outcome found current
  | _ => exact h.quiet (Nat.le_refl _) h.failing (by simp [PollEvent.outcomeOf?])

theorem isNarrated_life (options : PollOptions) (born : Nat)
    (actions : List (Nat × PollAction α)) :
    (life options born actions).1.IsNarrated (life options born actions).2 :=
  life_induct IsBlank.isNarrated (fun ho h hm => hm.isNarrated ho h) options born actions


-- ---------------------------------------------------------------------------
-- Announcements
-- ---------------------------------------------------------------------------

/-- Each time the generation is raised, the next announcement is made. -/
def IsAnnounced (s : Subscription α) (history : List (Nat × PollEvent α)) : Prop :=
  announcementsIn history = (List.range s.generation).map announcement

theorem IsBlank.isAnnounced (h : s.IsBlank) : s.IsAnnounced [] := by
  simp [IsAnnounced, announcementsIn, generation, snapshot, h.watched]

theorem IsAnnounced.quiet (h : s.IsAnnounced history) (hg : s'.generation = s.generation)
    (none : ∀ e ∈ es, e.number? ≠ none) : s'.IsAnnounced (history ++ es.map (now, ·)) := by
  have hsame : announcementsIn (history ++ es.map (now, ·)) = announcementsIn history :=
    filterMap_quiet (fun e he => PollEvent.announces_of_number?_ne_none (none e he)) now history
  rw [IsAnnounced, hsame, hg]
  exact h

theorem IsAnnounced.raise (h : s.IsAnnounced history) (hg : s'.generation = s.generation + 1)
    (announced : e.line?.bind (·.announces?) = some (announcement s.generation)) :
    s'.IsAnnounced (history ++ [e].map (now, ·)) := by
  rw [IsAnnounced, announcementsIn, hg, List.range_succ, List.map_append, List.filterMap_append]
  congr 1
  simp [announced]

theorem Move.isAnnounced (hm : Move now s s' es)
    (hc : Odd s.generation ↔ s.isActive = true) (ho : s.IsOrderly)
    (h : s.IsAnnounced history) : s'.IsAnnounced (history ++ es.map (now, ·)) := by
  cases hm with
  | activate inactive =>
    have heven : Even s.generation := by
      rw [← Nat.not_odd_iff_even, hc, isActive, inactive]
      exact Bool.false_ne_true
    refine h.raise rfl ?_
    rw [announcement, if_pos heven]
    rfl
  | @deactivate g active =>
    have hodd : ¬Even s.generation := by
      rw [Nat.not_even_iff_odd, hc, isActive, active]
      rfl
    obtain rfl := ho.newest g active
    have hevents : s.deactivate.2 = [.deactivated s.generation] := by
      simp [Subscription.deactivate, active]
    rw [hevents]
    refine h.raise (generation_deactivate active) ?_
    rw [announcement, if_neg hodd]
    rfl
  | refresh => exact h.quiet (generation_refresh s) (by simp)
  | apply outcome =>
    refine h.quiet (applyOutcome_generation _ _ _ _) ?_
    cases outcome <;> simp [outcomeEvent, PollEvent.number?]
  | _ => exact h.quiet rfl (by simp [PollEvent.number?])

theorem isAnnounced_life (options : PollOptions) (born : Nat)
    (actions : List (Nat × PollAction α)) :
    (life options born actions).1.IsAnnounced (life options born actions).2 := by
  have hboth := life_induct (α := α) (P := fun s h => s.IsCounted ∧ s.IsAnnounced h)
    (fun hs => ⟨hs.isCounted, hs.isAnnounced⟩)
    (fun ho h hm => ⟨hm.isCounted h.1, hm.isAnnounced h.1 ho h.2⟩) options born actions
  exact hboth.2


-- ---------------------------------------------------------------------------
-- Discarded outcomes
-- ---------------------------------------------------------------------------

/-- What is discarded was revoked, and is discarded once. -/
structure IsDisposed (history : List (Nat × PollEvent α)) : Prop where
  once : (discardsIn history).Nodup
  revoked : ∀ n g, (n, g) ∈ discardsIn history → Revoked history n g

theorem isDisposed_nil : IsDisposed ([] : List (Nat × PollEvent α)) := by
  constructor <;> simp [discardsIn]

theorem mem_settledIn_iff :
    n ∈ settledIn history ↔ n ∈ appliedIn history ∨ ∃ g, (n, g) ∈ discardsIn history := by
  simp only [settledIn, appliedIn, discardsIn, List.mem_filterMap, PollEvent.settled?_eq_some_iff]
  constructor
  · rintro ⟨e, he, happlied | ⟨g, hdiscarded⟩⟩
    · exact .inl ⟨e, he, happlied⟩
    · exact .inr ⟨g, e, he, hdiscarded⟩
  · rintro (⟨e, he, happlied⟩ | ⟨g, e, he, hdiscarded⟩)
    · exact ⟨e, he, .inl happlied⟩
    · exact ⟨e, he, .inr ⟨g, hdiscarded⟩⟩

theorem IsDisposed.quiet (h : IsDisposed history) (none : ∀ e ∈ es, e.discarded? = none) :
    IsDisposed (history ++ es.map (now, ·)) := by
  have hsame : discardsIn (history ++ es.map (now, ·)) = discardsIn history :=
    filterMap_quiet none now history
  constructor
  case once =>
    rw [hsame]
    exact h.once
  case revoked =>
    rw [hsame]
    exact fun n g hd => (h.revoked n g hd).append _

theorem Move.isDisposed (hm : Move now s s' es) (ho : s.IsOrderly) (hr : s.IsRecorded history)
    (ha : s.IsAccounted history) (h : IsDisposed history) :
    IsDisposed (history ++ es.map (now, ·)) := by
  cases hm with
  | activate => exact h.quiet fun e he => PollEvent.discarded?_eq_none (areQuiet_activate s e he)
  | deactivate =>
    exact h.quiet fun e he => PollEvent.discarded?_eq_none (areQuiet_deactivate s e he)
  | apply outcome =>
    refine h.quiet ?_
    cases outcome <;> simp [outcomeEvent, PollEvent.discarded?]
  | @discard t number since due found busy stale =>
    have hmem : t ∈ s.tasks := mem_of_task? found
    have hbusy : t.retrieval? = some number := PollTask.retrieval?_eq_some_iff.2 ⟨_, _, busy⟩
    have hover : s.activation ≠ some t.generation := ho.ne_of_over hmem (.inr stale)
    have hrevoked : Revoked history number t.generation := ha.revoked t hmem number hbusy hover
    obtain ⟨_, hopen⟩ := (hr.inFlight number t.generation).2 ⟨t, hmem, hbusy, rfl⟩
    have hdiscards : discardsIn (history ++ [.discarded number t.generation].map (now, ·)) =
        discardsIn history ++ [(number, t.generation)] := by
      simp [discardsIn, PollEvent.discarded?]
    constructor
    case once =>
      rw [hdiscards, List.nodup_append_comm, List.singleton_append, List.nodup_cons]
      exact ⟨fun hd => hopen (mem_settledIn_iff.2 (.inr ⟨_, hd⟩)), h.once⟩
    case revoked =>
      intro n g hd
      rw [hdiscards, List.mem_append, List.mem_singleton] at hd
      rcases hd with hd | hd
      · exact (h.revoked n g hd).append _
      · obtain ⟨rfl, rfl⟩ := Prod.mk.inj hd
        exact hrevoked.append _
  | _ => exact h.quiet (by simp [PollEvent.discarded?])

theorem isDisposed_life (options : PollOptions) (born : Nat)
    (actions : List (Nat × PollAction α)) : IsDisposed (life options born actions).2 := by
  have hall := life_induct (α := α)
    (P := fun s h => (s.IsRecorded h ∧ s.IsAccounted h) ∧ IsDisposed h)
    (fun hs => ⟨⟨hs.isRecorded, hs.isAccounted⟩, isDisposed_nil⟩)
    (fun ho h hm => ⟨⟨h.1.1.move ho hm, h.1.2.move ho h.1.1 hm⟩,
      hm.isDisposed ho h.1.1 h.1.2 h.2⟩) options born actions
  exact hall.2

/-- Each outcome that is discarded is logged by a line of its own. -/
theorem filter_tellsDiscard_logIn (history : List (Nat × PollEvent α)) :
    ((logIn history).map (·.2)).filter (·.tellsDiscard) =
      (discardsIn history).map fun d => discardLine d.2 := by
  induction history with
  | nil => rfl
  | cons x history ih =>
    have hlog : (logIn (x :: history)).map (·.2) =
        x.2.line?.toList ++ (logIn history).map (·.2) := by
      rw [logIn, List.filterMap_cons]
      cases x.2.line? <;> rfl
    have hdiscards : (discardsIn (x :: history)).map (fun d => discardLine d.2) =
        (x.2.discarded?.map fun d => discardLine d.2).toList ++
          (discardsIn history).map fun d => discardLine d.2 := by
      rw [discardsIn, List.filterMap_cons]
      cases x.2.discarded? <;> rfl
    rw [hlog, hdiscards, List.filter_append, x.2.filter_tellsDiscard_line?, ih]

/-- Exactly those outcomes are discarded that were revoked and came later. -/
theorem mem_discardsIn_iff (hr : s.IsRecorded history) (ha : s.IsAccounted history)
    (h : IsDisposed history) :
    (n, g) ∈ discardsIn history ↔ Revoked history n g ∧ n ∈ settledIn history := by
  constructor
  · exact fun hd => ⟨h.revoked n g hd, mem_settledIn_iff.2 (.inr ⟨g, hd⟩)⟩
  · rintro ⟨hrevoked, hsettled⟩
    obtain ⟨g', hd⟩ := (mem_settledIn_iff.1 hsettled).resolve_left (ha.unapplied n g hrevoked)
    obtain rfl := hr.unique (ha.past n g hrevoked).1 (ha.past n g' (h.revoked n g' hd)).1
    exact hd


-- ---------------------------------------------------------------------------
-- The lines of a step
-- ---------------------------------------------------------------------------

theorem line?_of_mem_proceed {t : PollTask} {due : Nat} (h : e ∈ (s.proceed t now due).2.2) :
    e.line? = none := by
  unfold proceed at h
  split at h
  · cases h
  · cases h
  · split at h
    · obtain rfl := List.mem_singleton.1 h
      rfl
    · cases h

theorem line?_of_mem_turn (h : e ∈ (s.turn now g).2) : e.line? = none := by
  unfold turn at h
  split at h
  · cases h
  · simp only at h
    split at h
    · exact line?_of_mem_proceed h
    · exact line?_of_mem_proceed h
    · cases h

/-- The lines that events write. -/
def linesOf (es : List (PollEvent α)) : List LogLine :=
  es.filterMap (·.line?)

theorem linesOf_settle_of_current (hr : s.IsRecorded history) (ho : s.IsOrderly) {t : PollTask}
    (ht : t ∈ s.tasks) (busy : t.retrieval? = some n) (current : s.generation = t.generation)
    (outcome : Except RetrievalError α) :
    linesOf (s.settle now n outcome).2 = (s.outcomeEvent n t.generation outcome).line?.toList := by
  obtain ⟨since, due, hp⟩ := PollTask.retrieval?_eq_some_iff.1 busy
  have hrest : linesOf ((s.applyOutcome t now outcome).proceed t.afterFirst now due).2.2 = [] :=
    List.filterMap_eq_nil_iff.2 fun _ he => line?_of_mem_proceed he
  rw [settle_of_current hr ho ht hp current]
  simp only [linesOf, List.filterMap_cons] at hrest ⊢
  cases (s.outcomeEvent n t.generation outcome).line? <;> simp [hrest]

/-- In the history, a failure that is applied is a warning where it begins a run of failures, and a
repetition where it goes on with one. -/
theorem IsNarrated.line?_of_failure (h : s.IsNarrated history)
    {before after : List (Nat × PollEvent α)} {instant : Nat} {error : RetrievalError}
    (split : history = before ++ (instant, e) :: after)
    (failed : e.outcomeOf? = some (g, .error error)) :
    (¬IsFailing before g → e.line? = some (warningLine g error)) ∧
      (IsFailing before g → e.line? = some (repetitionLine g error)) := by
  cases e with
  | failed n g' error' fresh =>
    obtain ⟨rfl, rfl⟩ : g' = g ∧ error' = error := by
      simpa [PollEvent.outcomeOf?] using failed
    have hfresh := h.fresh before instant n g' error' fresh after split
    rw [PollEvent.line?_failed]
    constructor
    · intro begins
      rw [if_pos (hfresh.2 begins)]
    · intro goesOn
      rw [if_neg fun hf => hfresh.1 hf goesOn]
  | _ => cases failed

/-- The snapshot alone tells whether the next failure begins a run. -/
theorem IsNarrated.line?_outcomeEvent (h : s.IsNarrated history) (active : s.activation = some g)
    (n : Nat) (error : RetrievalError) :
    (¬IsFailing history g →
      (s.outcomeEvent n g (.error error)).line? = some (warningLine g error)) ∧
    (IsFailing history g →
      (s.outcomeEvent n g (.error error)).line? = some (repetitionLine g error)) := by
  have hfailing := h.failing g active
  rw [outcomeEvent, PollEvent.line?_failed]
  constructor
  · intro begins
    have hnone : s.snapshot.error = none := not_not.1 (hfailing.not.2 begins)
    rw [hnone]
    rfl
  · intro goesOn
    obtain ⟨message, hsome⟩ := Option.ne_none_iff_exists'.1 (hfailing.2 goesOn)
    rw [hsome]
    rfl

/-- An outcome that was revoked in flight is discarded, and says so. -/
theorem linesOf_settle_of_revoked (hr : s.IsRecorded history) (ho : s.IsOrderly)
    (ha : s.IsAccounted history) (flight : InFlight history n g) (revoked : Revoked history n g)
    (outcome : Except RetrievalError α) : linesOf (s.settle now n outcome).2 = [discardLine g] := by
  obtain ⟨t, ht, busy, rfl⟩ := (hr.inFlight n g).1 flight
  obtain ⟨since, due, hp⟩ := PollTask.retrieval?_eq_some_iff.1 busy
  have hstale : s.generation ≠ t.generation := (Nat.ne_of_lt (ha.past n _ revoked).2).symm
  rw [settle_of_stale hr ho ht hp hstale]
  rfl

/-- The outcome of a retrieval that was not revoked is that of the current activation. -/
theorem linesOf_settle_of_kept (hr : s.IsRecorded history) (ho : s.IsOrderly)
    (ha : s.IsAccounted history) (flight : InFlight history n g) (kept : ¬Revoked history n g)
    (outcome : Except RetrievalError α) :
    s.activation = some g ∧
      linesOf (s.settle now n outcome).2 = (s.outcomeEvent n g outcome).line?.toList := by
  obtain ⟨t, ht, busy, rfl⟩ := (hr.inFlight n g).1 flight
  have hactive : s.activation = some t.generation := by
    by_contra ended
    exact kept (ha.revoked t ht n busy ended)
  have hcurrent : s.generation = t.generation := (ho.newest _ hactive).symm
  exact ⟨hactive, linesOf_settle_of_current hr ho ht busy hcurrent outcome⟩

/-- Steps other than the settlement of a retrieval in flight only make announcements. -/
theorem announces_of_mem_linesOf (hr : s.IsRecorded history) (a : PollAction α)
    (none : ∀ n outcome, a = .settle n outcome → ∀ g, ¬InFlight history n g) {line : LogLine}
    (h : line ∈ linesOf (s.act now a).2) : line.announces?.isSome = true := by
  obtain ⟨e, he, hline⟩ := List.mem_filterMap.1 h
  cases a with
  | settle n outcome =>
    simp [act, settle_of_not_inFlight hr (none n outcome rfl)] at he
  | turn generation =>
    rw [line?_of_mem_turn he] at hline
    cases hline
  | _ =>
    obtain ⟨line', hline', hannounces⟩ :=
      PollEvent.announces_of_number?_eq_none (areQuiet_owner s now (by trivial) e he)
    obtain rfl := Option.some.inj (hline'.symm.trans hline)
    exact hannounces


-- ---------------------------------------------------------------------------
-- The log and the runs
-- ---------------------------------------------------------------------------

/-- Whatever the owner and the tasks do: among all events, exactly the failures that are applied
write lines of failures, a warning where no run of failures is under way in the activation, and a
repetition where one is. A retrieval in flight that settles writes its one line, or none if it
succeeds in time; if it was revoked, that is the line of a discarded outcome. Each retrieval that
was in flight when its activation was revoked and settled later has one such line, and no other
does. All other steps log at most that an activation begins or ends; these lines alternate, starting
with a beginning, and the `k`-th pair of them has the `k`-th odd number as its generation, which is
the snapshot's while that activation lasts. -/
theorem log_follows_failure_runs (options : PollOptions) (born : Nat)
    (actions : List (Nat × PollAction α)) :
    let s := (life options born actions).1
    let history := (life options born actions).2
    (∀ before instant e after, history = before ++ (instant, e) :: after →
      ((∃ line ∈ e.line?, line.tellsFailure) ↔ ∃ g error, e.outcomeOf? = some (g, .error error)) ∧
      ∀ g error, e.outcomeOf? = some (g, .error error) →
        (¬IsFailing before g → e.line? = some (warningLine g error)) ∧
        (IsFailing before g → e.line? = some (repetitionLine g error))) ∧
    (∀ now n g outcome, InFlight history n g →
      let lines := linesOf (s.act now (.settle n outcome)).2
      (Revoked history n g → lines = [discardLine g]) ∧
      (¬Revoked history n g →
        (∀ value, outcome = .ok value → lines = []) ∧
        (∀ error, outcome = .error error →
          (¬IsFailing history g → lines = [warningLine g error]) ∧
          (IsFailing history g → lines = [repetitionLine g error])))) ∧
    (∀ now a, (∀ n outcome, a = .settle n outcome → ∀ g, ¬InFlight history n g) →
      ∀ line ∈ linesOf (s.act now a).2, line.announces?.isSome = true) ∧
    (((logIn history).map (·.2)).filter (·.tellsDiscard) =
        (discardsIn history).map (fun d => discardLine d.2) ∧
      (discardsIn history).Nodup ∧
      ∀ n g, (n, g) ∈ discardsIn history ↔ Revoked history n g ∧ n ∈ settledIn history) ∧
    ((logIn history).filterMap (·.2.announces?) = (List.range s.generation).map announcement ∧
      ∀ g, s.activation = some g → g = s.generation) := by
  intro s history
  have ho : s.IsOrderly := isOrderly_life options born actions
  have hr : s.IsRecorded history := isRecorded_life options born actions
  have ha : s.IsAccounted history := isAccounted_life options born actions
  have hn : s.IsNarrated history := isNarrated_life options born actions
  have hd : IsDisposed history := isDisposed_life options born actions
  refine ⟨?events, ?settlements, ?others, ?discards, ?announcements⟩
  case events =>
    intro before instant e after hsplit
    exact ⟨e.tellsFailure_iff, fun g error failed => hn.line?_of_failure hsplit failed⟩
  case settlements =>
    intro now n g outcome flight lines
    refine ⟨fun revoked => linesOf_settle_of_revoked hr ho ha flight revoked outcome, fun kept => ?_⟩
    obtain ⟨hactive, hlines⟩ : s.activation = some g ∧
        lines = (s.outcomeEvent n g outcome).line?.toList :=
      linesOf_settle_of_kept hr ho ha flight kept outcome
    rw [hlines]
    constructor
    · rintro value rfl
      rfl
    · rintro error rfl
      obtain ⟨hbegins, hgoesOn⟩ := hn.line?_outcomeEvent hactive n error
      constructor
      · intro begins
        rw [hbegins begins]
        rfl
      · intro goesOn
        rw [hgoesOn goesOn]
        rfl
  case others => exact fun now a none line => announces_of_mem_linesOf hr a none
  case discards =>
    exact ⟨filter_tellsDiscard_logIn history, hd.once, fun n g => mem_discardsIn_iff hr ha hd⟩
  case announcements =>
    rw [← announcementsIn_eq]
    exact ⟨isAnnounced_life options born actions, ho.newest⟩

/-- Two retrievals fail and a third one is in flight when the key changes. Of the first two, the
second one is a repetition. The new activation begins a run of its own when its retrieval fails, and
the third outcome comes too late. -/
theorem log_follows_failures_over_restart :
    let ms := millisecond
    let options : PollOptions := { interval := ⟨10 * ms, by decide⟩ }
    let lost : RetrievalError := .failed "connection lost"
    let first : List (Nat × PollAction Nat) :=
      [(0, .turn 1), (2 * ms, .settle 1 (.error lost)), (10 * ms, .turn 1),
       (11 * ms, .settle 2 (.error lost)), (20 * ms, .turn 1)]
    let change : List (Nat × PollAction Nat) :=
      [(21 * ms, .setResyncKey (some "b")), (21 * ms, .turn 3)]
    let s := (life options 0 (first ++ change)).1
    let again : PollEvent Nat := .failed 2 1 lost false
    (IsFailing (life options 0 (first.take 3)).2 1 ∧ again.line? = some (repetitionLine 1 lost)) ∧
      linesOf (s.act (22 * ms) (.settle 4 (.error lost))).2 = [warningLine 3 lost] ∧
      linesOf (s.act (23 * ms) (.settle 3 (.error lost))).2 = [discardLine 1] ∧
      ∀ line ∈ linesOf (s.act (24 * ms) .drop).2, line.announces?.isSome = true := by
  intro ms options lost first change s again
  obtain ⟨hevents, hsettlements, hothers, _, _⟩ :=
    log_follows_failure_runs options 0 (first ++ change)
  let later : List (Nat × PollEvent Nat) :=
    [(20 * ms, .started 3 1 (.tick (20 * ms))), (21 * ms, .deactivated 1),
     (21 * ms, .activated 3 (some "b") 10), (21 * ms, .started 4 3 (.tick (21 * ms)))]
  have hnew : InFlight (life options 0 (first ++ change)).2 4 3 :=
    ⟨by decide +kernel, by decide +kernel⟩
  have hold : InFlight (life options 0 (first ++ change)).2 3 1 :=
    ⟨by decide +kernel, by decide +kernel⟩
  have hrevoked : Revoked (life options 0 (first ++ change)).2 3 1 :=
    ⟨(life options 0 first).2, 21 * ms,
      [(21 * ms, .activated 3 (some "b") 10), (21 * ms, .started 4 3 (.tick (21 * ms)))],
      by decide +kernel, by decide +kernel, by decide +kernel⟩
  have hkept : ¬Revoked (life options 0 (first ++ change)).2 4 3 := fun hrevoked =>
    absurd ((isAccounted_life options 0 (first ++ change)).past 4 3 hrevoked).2 (by decide +kernel)
  have hbegins : ¬IsFailing (life options 0 (first ++ change)).2 3 := by decide +kernel
  have hgoesOn : IsFailing (life options 0 (first.take 3)).2 1 := by decide +kernel
  refine ⟨⟨hgoesOn, ?_⟩, ?_, ?_, ?_⟩
  · exact ((hevents (life options 0 (first.take 3)).2 (11 * ms) again later
      (by decide +kernel)).2 1 lost rfl).2 hgoesOn
  · exact (((hsettlements (22 * ms) 4 3 _ hnew).2 hkept).2 lost rfl).1 hbegins
  · exact (hsettlements (23 * ms) 3 1 _ hold).1 hrevoked
  · exact hothers (24 * ms) .drop (by simp)

end Subscription

end DashboardClient
