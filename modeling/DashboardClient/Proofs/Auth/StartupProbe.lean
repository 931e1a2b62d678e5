import DashboardClient.Proofs.Auth.Discipline

/-!
# One startup probe

Any call may have to run the startup probe, and may be dropped while it does. The account
of the probe balances in every step: the runs that were begun are those that were dropped,
and the one that is underway or has come to its end. So the backend is asked for the identity
once, and once more for every call that was dropped while it ran the probe.
-/

namespace DashboardClient

namespace AuthEvent

/-- The startup probe comes to its end. -/
def endsProbe : AuthEvent → Bool
  | .changed _ change => change.isProbes
  | _ => false

/-- A run of the startup probe begins: the backend is asked for the identity. -/
def asksIdentity : AuthEvent → Bool
  | .sent _ .probe => true
  | _ => false

end AuthEvent

/-- How many runs of the startup probe begin among the events. -/
def probesIn (events : List AuthEvent) : Nat :=
  events.countP (·.asksIdentity)

theorem probesIn_append (first rest : List AuthEvent) :
    probesIn (first ++ rest) = probesIn first + probesIn rest :=
  List.countP_append

theorem probesIn_cons (e : AuthEvent) (es : List AuthEvent) :
    probesIn (e :: es) = probesIn es + if e.asksIdentity then 1 else 0 :=
  List.countP_cons

theorem probesIn_lastChange (id : Nat) (change : Option SessionChange) :
    probesIn ((change.map (AuthEvent.changed id)).toList ++ [.cancelled id]) = 0 := by
  cases change <;> rfl

theorem Finishes.probesIn_eq {store : SessionStore} {id : Nat} {stage : AuthStage}
    {reply : BackendReply} {change : Option SessionChange} {answer : AuthAnswer}
    {es : List AuthEvent} (h : Finishes store id stage reply change answer es) :
    probesIn (es ++ [.answered id answer]) = 0 := by
  cases h <;> rfl

namespace AuthGateway

variable {g g' : AuthGateway} {a : AuthAction} {c : AuthCall} {es : List AuthEvent}
  {outcome : Except AuthError SessionPhase}

-- ---------------------------------------------------------------------------
-- The account of the probe
-- ---------------------------------------------------------------------------

/-- The run of the probe that was not dropped: it has settled, or a call is at it. -/
def underway (g : AuthGateway) : Nat :=
  match g.probe with
  | .unstarted => 0
  | .running holder => if (g.call? holder).any (·.stage.isProbing) then 1 else 0
  | .settled _ => 1

/-- The step drops a call that runs the probe. -/
def abandons (g : AuthGateway) : AuthAction → Bool
  | .cancel id => (g.call? id).any (·.stage.isProbing)
  | _ => false

/-- How many steps drop a call that runs the probe. -/
def abandoned (g : AuthGateway) : List AuthAction → Nat
  | [] => 0
  | a :: rest => (if g.abandons a then 1 else 0) + (g.act a).1.abandoned rest

theorem abandoned_append (g : AuthGateway) (first rest : List AuthAction) :
    g.abandoned (first ++ rest) = g.abandoned first + (g.runAll first).1.abandoned rest := by
  induction first generalizing g with
  | nil => exact (Nat.zero_add _).symm
  | cons a first ih => simp only [List.cons_append, abandoned, ih, runAll, Nat.add_assoc]

theorem abandoned_snoc (g : AuthGateway) (actions : List AuthAction) (a : AuthAction) :
    g.abandoned (actions ++ [a]) =
      g.abandoned actions + if (g.runAll actions).1.abandons a then 1 else 0 :=
  abandoned_append g actions [a]

theorem underway_of_settled (ended : g.IsSettled) : g.underway = 1 := by
  obtain ⟨outcome, ho⟩ := ended
  simp [underway, ho]

theorem underway_of_running {holder : Nat} (running : g.probe = .running holder)
    (live : g.call? holder = some c) :
    g.underway = if c.stage.isProbing then 1 else 0 := by
  simp [underway, running, live]

theorem underway_le_one (g : AuthGateway) : g.underway ≤ 1 := by
  unfold underway
  split
  · exact Nat.zero_le 1
  · split
    · exact Nat.le_refl 1
    · exact Nat.zero_le 1
  · exact Nat.le_refl 1

/-- The account looks at the holder of the probe only. -/
theorem underway_congr (probe : g'.probe = g.probe)
    (holder : ∀ id, g.probe = .running id → g'.call? id = g.call? id) :
    g'.underway = g.underway := by
  unfold underway
  rw [probe]
  cases hp : g.probe with
  | running id => simp only [holder id hp]
  | _ => rfl

/-- A step of another call than the holder leaves the account alone. -/
theorem Step.underway_eq_of_ne (h : g.Step a g' es) (probe : g'.probe = g.probe)
    (other : g.probe ≠ .running a.caller) : g'.underway = g.underway := by
  refine underway_congr probe ?_
  intro id hp
  refine h.call?_of_ne ?_
  rintro rfl
  exact other hp

/-- The next holder has yet to run the probe. -/
theorem IsDisciplined.underway_handOver (h : g.IsDisciplined) (holds : g.probe = .running c.id)
    (change : Option SessionChange) : (g.finished c change).handOver.underway = 0 := by
  cases hq : g.queue with
  | nil =>
    have hp := (handOver_of_nil (g := g.finished c change) hq).1
    simp [underway, hp]
  | cons next rest =>
    have hp := (handOver_of_cons (g := g.finished c change) hq).1
    have hfirst : next ∈ g.queue := hq ▸ List.mem_cons_self
    obtain ⟨d, live, hs⟩ := h.waiting hfirst
    have hne : next ≠ c.id := by
      rintro rfl
      exact (h.held holds).1 hfirst
    have hlive : (g.finished c change).handOver.call? next = some d :=
      (handOver_call? _ next).trans ((call?_remove_of_ne hne).trans live)
    rw [underway_of_running hp hlive, hs]
    rfl

theorem Proceeds.probesIn_eq (h : g.Proceeds c outcome g' es) : probesIn es = 0 := by
  cases h with
  | decline => rfl
  | send sends =>
    generalize c.request = request at sends
    cases sends <;> rfl

theorem Ignores.abandons_eq_false (h : g.Ignores a) : g.abandons a = false := by
  cases a with
  | cancel id =>
    have hgone : g.call? id = none := h
    simp [abandons, hgone]
  | _ => rfl

/-- What a step begins and drops balances with what is underway before and after it. -/
theorem Step.underway_balance (h : g.Step a g' es) (disciplined : g.IsDisciplined) :
    probesIn es + g.underway = (if g.abandons a then 1 else 0) + g'.underway := by
  have hstep := h
  cases h with
  | stay ignored =>
    rw [ignored.abandons_eq_false]
    rfl
  | @arrive id request fresh =>
    have hne : g.probe ≠ .running id := by
      intro hp
      obtain ⟨_, c, live, _⟩ := disciplined.held hp
      cases fresh.symm.trans live
    rw [hstep.underway_eq_of_ne rfl hne]
    rfl
  | probe live free =>
    have hbefore : g.underway = 0 := by
      rcases free with ⟨_, hp⟩ | ⟨hs, hp⟩
      · simp [underway, hp]
      · rw [underway_of_running hp live, hs]
        rfl
    rw [hbefore, underway_of_running rfl (call?_probe_self live)]
    rfl
  | @enqueue c holder live ready running =>
    have hne : g.probe ≠ .running c.id := by
      intro hp
      obtain ⟨_, d, hlive, hs⟩ := disciplined.held hp
      obtain rfl := Option.some.inj (live.symm.trans hlive)
      simp [ready, AuthStage.isProbing] at hs
    rw [hstep.underway_eq_of_ne rfl hne]
    rfl
  | @proceed c outcome g' es live stage ended proceeds =>
    have hover : g.IsSettled := ⟨outcome, ended⟩
    rw [proceeds.probesIn_eq, underway_of_settled hover,
      underway_of_settled (hstep.settled disciplined hover)]
    rfl
  | @identify c identity live stage =>
    have hp := disciplined.running_of_isProbing live (by rw [stage]; rfl)
    have hself := call?_moveTo_self live (.probingToken identity)
    have hp' : (g.moveTo c (.probingToken identity)).probe = .running c.id := hp
    rw [underway_of_running hp live, stage, underway_of_running hp' hself]
    rfl
  | @settle c reply outcome change notice g' es live ends proceeds =>
    have hover : g'.IsSettled := ⟨outcome, proceeds.probe_eq⟩
    have hp := disciplined.running_of_isProbing live ends.isProbing
    rw [probesIn_cons, probesIn_cons, proceeds.probesIn_eq, underway_of_running hp live,
      ends.isProbing, underway_of_settled hover]
    rfl
  | finish live finishes =>
    have hover := disciplined.settled_of_finishes live finishes
    rw [finishes.probesIn_eq, underway_of_settled hover,
      underway_of_settled (hstep.settled disciplined hover)]
    rfl
  | @abandon c live holds =>
    rw [probesIn_lastChange, disciplined.underway_handOver holds,
      underway_of_running holds live]
    simp [abandons, live]
  | @withdraw c live free =>
    have hidle : c.stage.isProbing = false := by
      by_contra hprobing
      exact free (disciplined.running_of_isProbing live (by simpa using hprobing))
    rw [probesIn_lastChange, hstep.underway_eq_of_ne rfl free]
    simp [abandons, live, hidle]

/-- The backend is asked for the identity once for each run that was dropped, and once for the
run that was not. -/
theorem probesIn_history (store : SessionStore) (actions : List AuthAction) :
    probesIn (history store actions).2 =
      ({ store } : AuthGateway).abandoned actions + (history store actions).1.underway := by
  induction actions using List.reverseRecOn with
  | nil => rfl
  | append_singleton actions a ih =>
    have hbalance := (step_act (history store actions).1 a).underway_balance
      (isDisciplined_history store actions)
    have habandoned : ({ store } : AuthGateway).abandoned (actions ++ [a]) =
        ({ store } : AuthGateway).abandoned actions +
          if (history store actions).1.abandons a then 1 else 0 := abandoned_snoc _ actions a
    rw [history_snoc, probesIn_append, ih, habandoned, Nat.add_assoc, Nat.add_assoc, ← hbalance,
      Nat.add_comm (history store actions).1.underway]


-- ---------------------------------------------------------------------------
-- When nobody is dropped
-- ---------------------------------------------------------------------------

/-- Unless it is dropped, the run that is underway stays underway or settles. -/
theorem Step.stays_underway (h : g.Step a g' es) (disciplined : g.IsDisciplined)
    (kept : g.abandons a = false) (underway : g.underway = 1) : g'.underway = 1 := by
  have hbalance := h.underway_balance disciplined
  rw [kept, underway] at hbalance
  have hle := underway_le_one g'
  simp only [Bool.false_eq_true, if_false] at hbalance
  omega

theorem kept_snoc {store : SessionStore} {actions : List AuthAction}
    (kept : ({ store } : AuthGateway).abandoned (actions ++ [a]) = 0) :
    ({ store } : AuthGateway).abandoned actions = 0 ∧
      (history store actions).1.abandons a = false := by
  rw [abandoned_snoc, Nat.add_eq_zero_iff] at kept
  obtain ⟨hbefore, hlast⟩ := kept
  refine ⟨hbefore, ?_⟩
  cases hdrops : (history store actions).1.abandons a with
  | false => rfl
  | true => exact absurd ((if_pos hdrops).symm.trans hlast) Nat.one_ne_zero

/-- Whoever holds the probe runs it. This is so until a call that ran it was dropped. -/
def IsRun (g : AuthGateway) : Prop :=
  ∀ {holder}, g.probe = .running holder → g.underway = 1

theorem Step.probe_of_unstarted (h : g.Step a g' es) (disciplined : g.IsDisciplined)
    (unstarted : g.probe = .unstarted) : g'.probe = .unstarted ∨ g'.underway = 1 := by
  cases h with
  | probe live => exact Or.inr (underway_of_running rfl (call?_probe_self live))
  | enqueue _ _ running => cases unstarted.symm.trans running
  | proceed _ _ ended => cases unstarted.symm.trans ended
  | settle live ends =>
    cases unstarted.symm.trans (disciplined.running_of_isProbing live ends.isProbing)
  | abandon _ holds => cases unstarted.symm.trans holds
  | _ => exact Or.inl unstarted

theorem Step.isRun (h : g.Step a g' es) (disciplined : g.IsDisciplined)
    (kept : g.abandons a = false) (run : g.IsRun) : g'.IsRun := by
  intro holder' hp'
  cases hp : g.probe with
  | unstarted =>
    rcases h.probe_of_unstarted disciplined hp with hunstarted | hunderway
    · cases hunstarted.symm.trans hp'
    · exact hunderway
  | running holder => exact h.stays_underway disciplined kept (run hp)
  | settled outcome => cases (h.outcome_eq disciplined hp).symm.trans hp'

/-- Once a call has run, the probe is underway. -/
theorem Step.underway_of_run {id : Nat} (h : g.Step (.run id) g' es)
    (disciplined : g.IsDisciplined) (run : g.IsRun) (live : g.call? id = some c) :
    g'.underway = 1 := by
  cases hp : g.probe with
  | unstarted =>
    have hready := disciplined.ready_of_unstarted hp live
    cases h with
    | stay ignored =>
      have hidle := ignored c live
      simp [isReady, hready] at hidle
    | probe hlive => exact underway_of_running rfl (call?_probe_self hlive)
    | enqueue _ _ running => cases hp.symm.trans running
    | proceed _ _ ended => cases hp.symm.trans ended
  | running holder => exact h.stays_underway disciplined rfl (run hp)
  | settled outcome => exact h.stays_underway disciplined rfl (underway_of_settled ⟨outcome, hp⟩)

theorem isRun_history (store : SessionStore) {actions : List AuthAction}
    (kept : ({ store } : AuthGateway).abandoned actions = 0) : (history store actions).1.IsRun := by
  induction actions using List.reverseRecOn with
  | nil => exact fun hp => nomatch hp
  | append_singleton actions a ih =>
    obtain ⟨hbefore, hlast⟩ := kept_snoc kept
    rw [history_snoc]
    exact (step_act _ a).isRun (isDisciplined_history store actions) hlast (ih hbefore)

/-- When no run of the probe is dropped, one is underway from the first time a call runs. -/
theorem underway_of_kept (store : SessionStore) {before after : List AuthAction} {id : Nat}
    (live : (history store before).1.call? id = some c)
    (kept : ({ store } : AuthGateway).abandoned (before ++ .run id :: after) = 0) :
    (history store (before ++ .run id :: after)).1.underway = 1 := by
  induction after using List.reverseRecOn with
  | nil =>
    obtain ⟨hbefore, _⟩ := kept_snoc kept
    rw [history_snoc]
    exact (step_act _ _).underway_of_run (isDisciplined_history store before)
      (isRun_history store hbefore) live
  | append_singleton after a ih =>
    rw [← List.cons_append, ← List.append_assoc] at kept ⊢
    obtain ⟨hbefore, hlast⟩ := kept_snoc kept
    rw [history_snoc]
    exact (step_act _ a).stays_underway (isDisciplined_history store _) hlast (ih hbefore)


-- ---------------------------------------------------------------------------
-- After the probe
-- ---------------------------------------------------------------------------

theorem settled_iff_ended (store : SessionStore) (actions : List AuthAction) :
    (history store actions).1.IsSettled ↔
      ∃ e ∈ (history store actions).2, e.endsProbe = true := by
  obtain ⟨hsettled, hfirst⟩ := isProbes_iff_first store actions
  rw [hsettled]
  constructor
  · intro hne
    obtain ⟨change, later, hlog⟩ := List.exists_cons_of_ne_nil hne
    have hprobes : change.isProbes = true := (hfirst [] change later hlog).2 rfl
    have hmem : change ∈ changesIn (history store actions).2 := hlog ▸ List.mem_cons_self
    obtain ⟨id, he⟩ := mem_changesIn.1 hmem
    exact ⟨_, he, hprobes⟩
  · rintro ⟨e, he, hends⟩
    cases e with
    | changed id change => exact List.ne_nil_of_mem (mem_changesIn.2 ⟨id, he⟩)
    | _ => cases hends

/-- Once the probe has settled, it neither ends nor begins again. -/
theorem Step.over_of_settled (h : g.Step a g' es) (disciplined : g.IsDisciplined)
    (ended : g.IsSettled) : ∀ e ∈ es, e.asksIdentity = false ∧ e.endsProbe = false := by
  intro e he
  cases e with
  | sent id call =>
    refine ⟨?_, rfl⟩
    cases call with
    | probe =>
      obtain ⟨outcome, ho⟩ := ended
      obtain ⟨_, early, c, _, _, hcases⟩ := h.sent_cases he
      rcases hcases with ⟨_, _, _, ⟨_, hp⟩ | ⟨_, hp⟩⟩ | ⟨hcall, _⟩ | ⟨_, stage, sends, _⟩
      · cases ho.symm.trans hp
      · cases ho.symm.trans hp
      · cases hcall
      · generalize c.request = request at sends
        cases sends
    | _ => rfl
  | changed id change =>
    refine ⟨rfl, ?_⟩
    have hmem : change ∈ changesIn es := mem_changesIn.2 ⟨id, he⟩
    rcases h.change_cases disciplined with ⟨hnone, _⟩ | ⟨last, hlast, _, hprobes⟩
    · rw [hnone] at hmem
      cases hmem
    · obtain rfl := List.mem_singleton.1 (hlast ▸ hmem)
      exact Bool.eq_false_iff.2 (fun hp => hprobes.1 hp ended)
  | _ => exact ⟨rfl, rfl⟩

theorem Proceeds.not_probes (h : g.Proceeds c outcome g' es) :
    ∀ e ∈ es, e.asksIdentity = false ∧ e.endsProbe = false := by
  cases h with
  | decline => exact List.forall_mem_singleton.2 ⟨rfl, rfl⟩
  | send sends =>
    generalize c.request = request at sends
    cases sends <;> exact List.forall_mem_singleton.2 ⟨rfl, rfl⟩

theorem pairwise_of_not_ends (none : ∀ e ∈ es, e.endsProbe = false) :
    es.Pairwise fun e later =>
      e.endsProbe = true → later.asksIdentity = false ∧ later.endsProbe = false := by
  refine List.pairwise_of_forall_mem_list ?_
  intro e he later _ hends
  rw [none e he] at hends
  cases hends

/-- Within a step, nothing of the probe follows its end. -/
theorem Step.pairwise_over (h : g.Step a g' es) (disciplined : g.IsDisciplined) :
    es.Pairwise fun e later =>
      e.endsProbe = true → later.asksIdentity = false ∧ later.endsProbe = false := by
  by_cases hover : g.IsSettled
  · exact pairwise_of_not_ends fun e he => (h.over_of_settled disciplined hover e he).2
  · cases h with
    | settle live ends proceeds =>
      refine List.Pairwise.cons (fun _ _ hends => nomatch hends) (List.Pairwise.cons ?_ ?_)
      · exact fun later hlater _ => proceeds.not_probes later hlater
      · exact pairwise_of_not_ends fun e he => (proceeds.not_probes e he).2
    | proceed live stage ended => exact absurd ⟨_, ended⟩ hover
    | finish live finishes => exact absurd (disciplined.settled_of_finishes live finishes) hover
    | @abandon c live =>
      refine pairwise_of_not_ends ?_
      rcases disciplined.lastChange_cases live with hnone | ⟨hout, _⟩
      · simp [hnone, AuthEvent.endsProbe]
      · simp [hout, AuthEvent.endsProbe, SessionChange.isProbes]
    | @withdraw c live =>
      refine pairwise_of_not_ends ?_
      rcases disciplined.lastChange_cases live with hnone | ⟨hout, _⟩
      · simp [hnone, AuthEvent.endsProbe]
      · simp [hout, AuthEvent.endsProbe, SessionChange.isProbes]
    | _ => exact pairwise_of_not_ends (by simp [AuthEvent.endsProbe])

/-- Whatever happens, once the probe has ended it does not begin or end again. -/
theorem pairwise_over_history (store : SessionStore) (actions : List AuthAction) :
    (history store actions).2.Pairwise fun e later =>
      e.endsProbe = true → later.asksIdentity = false ∧ later.endsProbe = false := by
  induction actions using List.reverseRecOn with
  | nil => exact List.Pairwise.nil
  | append_singleton actions a ih =>
    have hdisciplined := isDisciplined_history store actions
    have hstep := step_act (history store actions).1 a
    rw [history_snoc]
    refine List.pairwise_append.2 ⟨ih, hstep.pairwise_over hdisciplined, ?_⟩
    intro e he later hlater hends
    have hover := (settled_iff_ended store actions).2 ⟨e, he, hends⟩
    exact hstep.over_of_settled hdisciplined hover later hlater


-- ---------------------------------------------------------------------------
-- What the backend is asked
-- ---------------------------------------------------------------------------

/-- The last that happened to the call is that it asked for the identity. -/
def AskedIdentity (id : Nat) (events : List AuthEvent) : Prop :=
  ∃ past later, events = past ++ .sent id .probe :: later ∧ ∀ e ∈ later, e.caller ≠ id

theorem askedIdentity_of_probingIdentity (store : SessionStore) {actions : List AuthAction}
    {id : Nat} (live : (history store actions).1.call? id = some c)
    (stage : c.stage = .probingIdentity) : AskedIdentity id (history store actions).2 := by
  induction actions using List.reverseRecOn generalizing c with
  | nil => cases live
  | append_singleton actions a ih =>
    rw [history_snoc] at live ⊢
    have hstep := step_act (history store actions).1 a
    rcases hstep.live_cases (isDisciplined_history store actions).distinct live with
      ⟨hlive, hquiet⟩ | hs | hs | ⟨call, sent⟩
    · obtain ⟨past, later, hevents, hlater⟩ := ih hlive stage
      refine ⟨past, later ++ ((history store actions).1.act a).2, by simp [hevents], ?_⟩
      intro e he
      rcases List.mem_append.1 he with he | he
      · exact hlater e he
      · exact hquiet e he
    · cases hs.symm.trans stage
    · cases hs.symm.trans stage
    · obtain ⟨_, early, d, hes, _, hcases⟩ := hstep.sent_cases sent
      rcases hcases with ⟨rfl, rfl, _⟩ | ⟨_, _, identity, _, _, live'⟩ | ⟨_, stage', sends, live'⟩
      · refine ⟨(history store actions).2, [], ?_, List.forall_mem_nil _⟩
        rw [hes]
        rfl
      · obtain rfl := Option.some.inj (live'.symm.trans live)
        cases stage
      · obtain rfl := Option.some.inj (live'.symm.trans live)
        obtain rfl : stage' = .probingIdentity := stage
        generalize d.request = request at sends
        cases sends

/-- The backend is asked for the identity, then for the token of the probe once the same call
has heard the identity, and for anything else after the probe has ended. -/
theorem sent_history (store : SessionStore) (actions : List AuthAction) (a : AuthAction)
    {id : Nat} {call : BackendCall}
    (sent : .sent id call ∈ ((history store actions).1.act a).2) :
    ∃ early, ((history store actions).1.act a).2 = early ++ [.sent id call] ∧
      (call = .probe ∨
        (call = .token ∧ (∃ identity, a = .reply id (.identity identity)) ∧
          AskedIdentity id (history store actions).2) ∨
        ∃ e ∈ (history store actions).2 ++ early, e.endsProbe = true) := by
  have hdisciplined := isDisciplined_history store actions
  have hstep := step_act (history store actions).1 a
  obtain ⟨_, early, c, hes, live, hcases⟩ := hstep.sent_cases sent
  refine ⟨early, hes, ?_⟩
  rcases hcases with ⟨hcall, _⟩ | ⟨hcall, _, identity, hreply, hstage, _⟩ | ⟨hover, _⟩
  · exact Or.inl hcall
  · have hasked := askedIdentity_of_probingIdentity store live hstage
    exact Or.inr (Or.inl ⟨hcall, ⟨identity, hreply⟩, hasked⟩)
  · have hended := (settled_iff_ended store (actions ++ [a])).1 (by rwa [history_snoc])
    rw [history_snoc, hes, ← List.append_assoc] at hended
    obtain ⟨e, he, hends⟩ := hended
    rcases List.mem_append.1 he with he | he
    · exact Or.inr (Or.inr ⟨e, he, hends⟩)
    · obtain rfl := List.mem_singleton.1 he
      cases hends


-- ---------------------------------------------------------------------------
-- What calls hear of the probe
-- ---------------------------------------------------------------------------

/-- The answer of a call that asks for the outcome of the probe. -/
def outcomeAnswer : Except AuthError SessionPhase → AuthAnswer
  | .ok phase => .phase phase
  | .error e => .error e

theorem Proceeds.told (h : g.Proceeds c outcome g' es) (request : c.request = .probe) :
    es = [.answered c.id (outcomeAnswer outcome)] := by
  cases h with
  | decline declines =>
    rw [request] at declines
    cases declines with
    | phase known => rw [known]; rfl
    | failed known => rw [known]; rfl
  | send sends =>
    rw [request] at sends
    cases sends

theorem Proceeds.probe_answer (h : g.Proceeds c outcome g' es) (request : c.request = .probe)
    {id : Nat} {answer : AuthAnswer} (answered : .answered id answer ∈ es) :
    answer = outcomeAnswer outcome := by
  rw [h.told request] at answered
  exact (AuthEvent.answered.inj (List.mem_singleton.1 answered)).2

/-- A call that asks for the outcome of the probe is told the one that is kept. -/
theorem Step.probe_answer (h : g.Step a g' es) (disciplined : g.IsDisciplined) {id : Nat}
    (live : g.call? id = some c) (request : c.request = .probe) {answer : AuthAnswer}
    (answered : .answered id answer ∈ es) :
    ∃ outcome, g'.probe = .settled outcome ∧ answer = outcomeAnswer outcome := by
  obtain rfl : id = a.caller := h.caller_eq _ answered
  cases h with
  | @proceed d outcome g' es hlive stage ended proceeds =>
    obtain rfl := Option.some.inj (hlive.symm.trans live)
    exact ⟨outcome, proceeds.probe_eq.trans ended, proceeds.probe_answer request answered⟩
  | @settle d reply outcome change notice g' es hlive ends proceeds =>
    obtain rfl := Option.some.inj (hlive.symm.trans live)
    exact ⟨outcome, proceeds.probe_eq, proceeds.probe_answer request (by simpa using answered)⟩
  | finish hlive finishes =>
    obtain rfl := Option.some.inj (hlive.symm.trans live)
    have hadmits := disciplined.admitted live
    unfold Admits at hadmits
    generalize AuthCall.stage _ = stage at hadmits finishes
    cases finishes <;> simp [request] at hadmits
  | abandon => simp at answered
  | withdraw => simp at answered
  | _ => simp at answered

theorem outcome_of_runAll (disciplined : g.IsDisciplined) (ended : g.probe = .settled outcome)
    (actions : List AuthAction) : (g.runAll actions).1.probe = .settled outcome := by
  have hkept : (g.runAll actions).1.IsDisciplined ∧
      (g.runAll actions).1.probe = .settled outcome :=
    runAll_induct (P := fun g => g.IsDisciplined ∧ g.probe = .settled outcome) ⟨disciplined, ended⟩
      (fun hstep h => ⟨hstep.isDisciplined h.1, hstep.outcome_eq h.1 h.2⟩) actions
  exact hkept.2

/-- Whoever asks for the outcome of the probe, and whenever, is told the same. -/
theorem probe_answers_agree (store : SessionStore) (actions : List AuthAction) :
    ∃ result, ∀ before a after id c answer, actions = before ++ a :: after →
      (history store before).1.call? id = some c → c.request = .probe →
      .answered id answer ∈ ((history store before).1.act a).2 → answer = result := by
  have hkept {before after : List AuthAction} {a : AuthAction} {id : Nat} {c : AuthCall}
      {answer : AuthAnswer} (hsplit : actions = before ++ a :: after)
      (live : (history store before).1.call? id = some c) (request : c.request = .probe)
      (answered : .answered id answer ∈ ((history store before).1.act a).2) :
      ∃ outcome, (history store actions).1.probe = .settled outcome ∧
        answer = outcomeAnswer outcome := by
    have hdisciplined := isDisciplined_history store before
    have hstep := step_act (history store before).1 a
    obtain ⟨outcome, hover, hanswer⟩ := hstep.probe_answer hdisciplined live request answered
    refine ⟨outcome, ?_, hanswer⟩
    rw [hsplit, List.append_cons, history_append, history_snoc]
    exact outcome_of_runAll (hstep.isDisciplined hdisciplined) hover after
  cases hp : (history store actions).1.probe with
  | settled outcome =>
    refine ⟨outcomeAnswer outcome, ?_⟩
    intro before a after id c answer hsplit live request answered
    obtain ⟨outcome', hover, rfl⟩ := hkept hsplit live request answered
    rw [Probe.settled.inj (hp.symm.trans hover)]
  | _ =>
    refine ⟨.loggedOut, ?_⟩
    intro before a after id c answer hsplit live request answered
    obtain ⟨outcome', hover, _⟩ := hkept hsplit live request answered
    cases hp.symm.trans hover


-- ---------------------------------------------------------------------------
-- Nobody is stranded
-- ---------------------------------------------------------------------------

/-- A call in the queue whose turn it is asks the backend for something, or ends. -/
theorem run_events_ne_nil (queued : c.stage = .queued) (ready : g.isReady c = true) :
    (g.run c).2 ≠ [] := by
  unfold run
  cases hp : g.probe with
  | unstarted => simp [isReady, queued, hp] at ready
  | running holder =>
    have hholder : holder = c.id := by simpa [isReady, queued, hp] using ready
    simp only [queued, hholder, if_true]
    exact List.cons_ne_nil _ _
  | settled outcome =>
    simp only [queued]
    have hproceeds := proceeds_proceed g c outcome
    generalize (g.proceed c outcome).1 = g' at hproceeds
    generalize (g.proceed c outcome).2 = es at hproceeds ⊢
    cases hproceeds <;> exact List.cons_ne_nil _ _

/-- When no call can go on and one waits for the probe, another one runs it. -/
theorem IsDisciplined.probing_of_idle (h : g.IsDisciplined)
    (idle : ∀ c ∈ g.calls, g.run c = (g, [])) (waits : ∃ c ∈ g.calls, c.stage = .queued) :
    ∃ c ∈ g.calls, c.stage.isProbing = true := by
  have hturn {d : AuthCall} (hd : d ∈ g.calls) (queued : d.stage = .queued) :
      g.isReady d = false := by
    by_contra hready
    exact run_events_ne_nil queued (by simpa using hready) (by rw [idle d hd])
  obtain ⟨c, hc, hs⟩ := waits
  have hidle := hturn hc hs
  have live := (mem_calls_iff h.distinct).1 hc
  rcases h.waits_of_queued live hs with ⟨outcome, ho⟩ | hp | hq
  · simp [isReady, hs, ho] at hidle
  · simp [isReady, hs, hp] at hidle
  · obtain ⟨holder, hp⟩ := h.attended (List.ne_nil_of_mem hq)
    obtain ⟨_, d, hd, hqueued | hprobing⟩ := h.held hp
    · obtain rfl := call?_id hd
      have hmem := (mem_calls_iff h.distinct).2 hd
      have hidle' := hturn hmem hqueued
      simp [isReady, hqueued, hp] at hidle'
    · obtain rfl := call?_id hd
      exact ⟨d, (mem_calls_iff h.distinct).2 hd, hprobing⟩

theorem IsDisciplined.eq_of_isProbing (h : g.IsDisciplined) {d : AuthCall} (hc : c ∈ g.calls)
    (hd : d ∈ g.calls) (probing : c.stage.isProbing = true) (probing' : d.stage.isProbing = true) :
    c = d := by
  have live := (mem_calls_iff h.distinct).1 hc
  have live' := (mem_calls_iff h.distinct).1 hd
  have hp := h.running_of_isProbing live probing
  have hp' := h.running_of_isProbing live' probing'
  rw [← Probe.running.inj (hp.symm.trans hp')] at live'
  exact Option.some.inj (live.symm.trans live')


-- ---------------------------------------------------------------------------
-- The discipline of the probe
-- ---------------------------------------------------------------------------

/-- Whatever calls come and go: one call at a time runs the startup probe; the probe asks for a
token once its own call has heard the identity, and nothing else is asked before it has ended;
it ends once and never begins again; it begins once, and once more for each call that was
dropped while it ran it; every call that asks for its outcome is told the same; and no call is
left waiting for a probe that nobody runs. -/
theorem one_startup_probe (store : SessionStore) (actions : List AuthAction) :
    let g := (history store actions).1
    let events := (history store actions).2
    let abandoned := ({ store } : AuthGateway).abandoned actions
    (∀ c ∈ g.calls, ∀ d ∈ g.calls, c.stage.isProbing → d.stage.isProbing → c = d) ∧
    (∀ before a after id call, actions = before ++ a :: after →
      .sent id call ∈ ((history store before).1.act a).2 →
      ∃ early, ((history store before).1.act a).2 = early ++ [.sent id call] ∧
        (call = .probe ∨
          (call = .token ∧ (∃ identity, a = .reply id (.identity identity)) ∧
            AskedIdentity id (history store before).2) ∨
          ∃ e ∈ (history store before).2 ++ early, e.endsProbe)) ∧
    (events.Pairwise fun e later =>
      e.endsProbe → later.asksIdentity = false ∧ later.endsProbe = false) ∧
    probesIn events ≤ 1 + abandoned ∧
    (∀ before id after c, actions = before ++ .run id :: after →
      (history store before).1.call? id = some c → abandoned = 0 → probesIn events = 1) ∧
    (∃ result, ∀ before a after id c answer, actions = before ++ a :: after →
      (history store before).1.call? id = some c → c.request = .probe →
      .answered id answer ∈ ((history store before).1.act a).2 → answer = result) ∧
    ((∀ c ∈ g.calls, g.run c = (g, [])) → (∃ c ∈ g.calls, c.stage = .queued) →
      ∃ c ∈ g.calls, c.stage.isProbing) := by
  intro g events abandoned
  have hdisciplined : g.IsDisciplined := isDisciplined_history store actions
  have hprobes : probesIn events = abandoned + g.underway := probesIn_history store actions
  refine ⟨?_, ?_, pairwise_over_history store actions, ?_, ?_,
    probe_answers_agree store actions, ?_⟩
  · intro c hc d hd probing probing'
    exact hdisciplined.eq_of_isProbing hc hd probing probing'
  · intro before a after id call _ sent
    exact sent_history store before a sent
  · rw [hprobes, Nat.add_comm]
    exact Nat.add_le_add_right (underway_le_one g) abandoned
  · rintro before id after c rfl live kept
    rw [hprobes, kept, underway_of_kept store live kept]
  · intro idle waits
    exact hdisciplined.probing_of_idle idle waits

/-- The call that runs the probe is dropped, and the first of two that wait runs it anew. -/
theorem one_startup_probe_when_dropped :
    let handedOver : List AuthAction :=
      [.start 1 .logout, .run 1, .start 2 .probe, .run 2, .start 3 .probe, .run 3, .cancel 1,
       .run 2]
    let refused : AuthAction := .reply 2 (.failed .unauthorized)
    let actions := handedOver ++ [refused, .run 3]
    probesIn (history {} actions).2 = 2 ∧ ({} : AuthGateway).abandoned actions = 1 ∧
      probesIn (history {} [.start 1 .logout, .run 1]).2 = 1 ∧
      (∃ c ∈ (history {} handedOver).1.calls, c.stage.isProbing) ∧
      ∀ answer, .answered 3 answer ∈ ((history {} (handedOver ++ [refused])).1.act (.run 3)).2 →
        answer = .phase .anonymous := by
  intro handedOver refused actions
  refine ⟨by decide +kernel, by decide +kernel, ?_, ?_, ?_⟩
  · obtain ⟨_, _, _, _, hkept, _⟩ := one_startup_probe {} [.start 1 .logout, .run 1]
    exact hkept [.start 1 .logout] 1 [] { id := 1, request := .logout } rfl rfl (by decide +kernel)
  · obtain ⟨_, _, _, _, _, _, hserved⟩ := one_startup_probe {} handedOver
    have hidle : ∀ c ∈ (history {} handedOver).1.calls,
        (history {} handedOver).1.run c = ((history {} handedOver).1, []) :=
      List.forall_mem_cons.2 ⟨rfl, List.forall_mem_cons.2 ⟨rfl, List.forall_mem_nil _⟩⟩
    exact hserved hidle ⟨{ id := 3, request := .probe, stage := .queued },
      List.mem_cons_of_mem _ List.mem_cons_self, rfl⟩
  · obtain ⟨_, _, _, _, _, ⟨result, hresult⟩, _⟩ := one_startup_probe {} actions
    intro answer answered
    have htold : .phase .anonymous = result :=
      hresult handedOver refused [.run 3] 2
        { id := 2, request := .probe, stage := .probingIdentity } (.phase .anonymous) rfl rfl rfl
        (List.mem_cons_of_mem _ (List.mem_cons_of_mem _ List.mem_cons_self))
    rw [htold]
    exact hresult (handedOver ++ [refused]) (.run 3) [] 3
      { id := 3, request := .probe, stage := .queued } answer rfl rfl rfl answered

end AuthGateway

end DashboardClient
