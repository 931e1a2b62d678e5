import DashboardClient.Proofs.Auth.Discipline

/-!
# The session is the replay of completed transitions

An observer between the callers and the backend sees calls start, run, hear from the backend
and be dropped, and sees what they ask of the backend. From this traffic alone it can tell
which transitions of the session complete, and in which order. The store holds their replay
and nothing else writes it: the gateway and the observer go through every run in step.
-/

namespace DashboardClient

-- ---------------------------------------------------------------------------
-- What a call waits for
-- ---------------------------------------------------------------------------

/-- What a call waits for, as its traffic tells. A fresh token may be awaited in the session
that it was asked for, or in a later one. -/
inductive Awaited where
  | startupIdentity
  | startupToken (identity : String)
  | login
  | logout
  | freshToken (sameSession : Bool)
  deriving DecidableEq

namespace Awaited

/-- The reply is one that the call waits for. -/
def hears : Awaited → BackendReply → Bool
  | .startupIdentity, .identity _ => true
  | .startupToken _, .token _ => true
  | .login, .login _ => true
  | .logout, .loggedOut => true
  | .freshToken _, .token _ => true
  | _, .failed _ => true
  | _, _ => false

/-- The transition that completes when the reply arrives. -/
def completes : Awaited → BackendReply → Option SessionChange
  | .startupIdentity, .failed _ => some .probedAnonymous
  | .startupToken identity, .token token => some (.probedAuthenticated identity token)
  | .startupToken _, .failed _ => some .probedAnonymous
  | .login, .login session => some (.loggedIn session.identity session.token)
  | .logout, .loggedOut => some .loggedOut
  | .logout, .failed _ => some .loggedOut
  | .freshToken true, .token token => some (.tokenReplaced token)
  | _, _ => none

/-- What a call waits for once the session that it asked in is over. -/
def crossed : Awaited → Awaited
  | .freshToken _ => .freshToken false
  | awaited => awaited

theorem completes_of_not_hears {awaited : Awaited} {reply : BackendReply}
    (deaf : awaited.hears reply = false) : awaited.completes reply = none := by
  unfold completes
  split
  case h_8 => rfl
  all_goals cases deaf

end Awaited


-- ---------------------------------------------------------------------------
-- The ledger
-- ---------------------------------------------------------------------------

/-- What an observer of the traffic keeps: what each call waits for, and the transitions that
have completed. -/
structure Ledger where
  awaited : Nat → Option Awaited := fun _ => none
  log : List SessionChange := []

namespace Ledger

/-- The transition that completes with the step. A logout that asked the backend completes also
when it is dropped. -/
def completion (l : Ledger) : AuthAction → Option SessionChange
  | .reply id reply => (l.awaited id).bind (·.completes reply)
  | .cancel id => if l.awaited id = some .logout then some .loggedOut else none
  | _ => none

/-- What a call waits for that asks the backend for this. The probe asks for a token when it
hears the identity. -/
def asks (l : Ledger) (a : AuthAction) : BackendCall → Awaited
  | .probe => .startupIdentity
  | .login _ _ => .login
  | .logout _ => .logout
  | .token =>
    match a, l.awaited a.caller with
    | .reply _ (.identity identity), some .startupIdentity => .startupToken identity
    | _, _ => .freshToken true

/-- What the caller of the step waits for after it. -/
def expects (l : Ledger) (a : AuthAction) (sent : Option BackendCall) : Option Awaited :=
  match sent, a with
  | some call, _ => some (l.asks a call)
  | none, .reply id reply => (l.awaited id).filter (fun awaited => !awaited.hears reply)
  | none, .cancel _ => none
  | none, _ => l.awaited a.caller

/-- What the other calls wait for after a step. -/
def revise (completed : Option SessionChange) (awaited : Awaited) : Awaited :=
  if completed.any (·.isBoundary) then awaited.crossed else awaited

theorem revise_of_inside {completed : Option SessionChange}
    (inside : completed.any (·.isBoundary) = false) : revise completed = id := by
  funext awaited
  rw [revise, inside]
  rfl

theorem revise_of_boundary {completed : Option SessionChange}
    (boundary : completed.any (·.isBoundary) = true) : revise completed = Awaited.crossed := by
  funext awaited
  rw [revise, boundary]
  rfl

/-- Enter a step, and what its caller asked of the backend in it. -/
def note (l : Ledger) (a : AuthAction) (sent : Option BackendCall) : Ledger where
  awaited id :=
    if id = a.caller then l.expects a sent else (l.awaited id).map (revise (l.completion a))
  log := l.log ++ (l.completion a).toList

end Ledger

/-- What the backend is asked among the events of a step. -/
def sentIn (events : List AuthEvent) : Option BackendCall :=
  (events.findSome? (·.sent?)).map (·.2)

namespace AuthGateway

/-- The steps of a run, each with what its caller asked of the backend in it. -/
def traffic (g : AuthGateway) : List AuthAction → List (AuthAction × Option BackendCall)
  | [] => []
  | a :: rest => (a, sentIn (g.act a).2) :: (g.act a).1.traffic rest

end AuthGateway

/-- The ledger of an observer who has seen the traffic. -/
def Ledger.read (traffic : List (AuthAction × Option BackendCall)) : Ledger :=
  traffic.foldl (fun l seen => l.note seen.1 seen.2) {}


-- ---------------------------------------------------------------------------
-- What the gateway knows of the same
-- ---------------------------------------------------------------------------

/-- What a call at this stage waits for, in the session of `epoch`. -/
def AuthStage.awaited (epoch : Nat) : AuthStage → Option Awaited
  | .probingIdentity => some .startupIdentity
  | .probingToken identity => some (.startupToken identity)
  | .loggingIn _ => some .login
  | .loggingOut => some .logout
  | .refreshing issued => some (.freshToken (issued = epoch))
  | _ => none

theorem AuthStage.hears_of_awaited {stage : AuthStage} {epoch : Nat} {awaited : Awaited}
    (h : stage.awaited epoch = some awaited) (reply : BackendReply) :
    awaited.hears reply = stage.hears reply := by
  cases stage with
  | ready => cases h
  | queued => cases h
  | _ =>
    cases h
    cases reply <;> rfl

/-- A reply that the call does not wait for completes nothing. -/
theorem AuthStage.completes_of_not_hears {stage : AuthStage} {reply : BackendReply}
    (deaf : stage.hears reply = false) (epoch : Nat) :
    (stage.awaited epoch).bind (·.completes reply) = none := by
  cases h : stage.awaited epoch with
  | none => rfl
  | some awaited =>
    exact Awaited.completes_of_not_hears ((stage.hears_of_awaited h reply).trans deaf)

/-- A reply ends what the call waits for, or the call goes on waiting. -/
theorem AuthStage.filter_hears (stage : AuthStage) (epoch : Nat) (reply : BackendReply) :
    (stage.awaited epoch).filter (fun awaited => !awaited.hears reply) =
      if stage.hears reply then none else stage.awaited epoch := by
  cases h : stage.awaited epoch with
  | none => simp
  | some awaited =>
    rw [← stage.hears_of_awaited h reply]
    cases hheard : awaited.hears reply <;> simp [Option.filter, hheard]

section Replies

variable {store : SessionStore} {id : Nat} {stage : AuthStage} {reply : BackendReply}
  {answer : AuthAnswer} {es : List AuthEvent}

theorem ProbeEnds.completes {outcome : Except AuthError SessionPhase} {change : SessionChange}
    {notice : AuthNotice} (h : ProbeEnds stage reply outcome change notice) (epoch : Nat) :
    (stage.awaited epoch).bind (·.completes reply) = some change := by
  cases h <;> rfl

theorem ProbeEnds.hears {outcome : Except AuthError SessionPhase} {change : SessionChange}
    {notice : AuthNotice} (h : ProbeEnds stage reply outcome change notice) :
    stage.hears reply = true := by
  cases h <;> rfl

variable {change : Option SessionChange}

theorem Finishes.hears (h : Finishes store id stage reply change answer es) :
    stage.hears reply = true := by
  cases h <;> rfl

theorem Finishes.sentIn_eq (h : Finishes store id stage reply change answer es) :
    sentIn (es ++ [.answered id answer]) = none := by
  cases h <;> rfl

/-- A refresh completes exactly when its token arrives in the epoch it was asked for, in which
the session must still be authenticated. -/
theorem Finishes.completes (h : Finishes store id stage reply change answer es)
    (current : stage = .refreshing store.epoch → store.phase = .authenticated) :
    (stage.awaited store.epoch).bind (·.completes reply) = change := by
  cases h with
  | refreshed => simp [AuthStage.awaited, Awaited.completes]
  | @outlived epoch token ended =>
    have hpast : epoch ≠ store.epoch := by
      rintro rfl
      rcases ended with hne | hphase
      · exact hne rfl
      · exact hphase (current rfl)
    simp [AuthStage.awaited, Awaited.completes, hpast]
  | @refreshFailed epoch e =>
    simp only [AuthStage.awaited, Option.bind_some]
    cases decide (epoch = store.epoch) <;> rfl
  | _ => rfl

end Replies

@[simp] theorem sentIn_lastChange (id : Nat) (change : Option SessionChange) :
    sentIn ((change.map (AuthEvent.changed id)).toList ++ [.cancelled id]) = none := by
  cases change <;> rfl

/-- Dropping a call completes a logout that asked the backend, and nothing else. -/
theorem AuthStage.lastChange_of_awaited (stage : AuthStage) (epoch : Nat) :
    (if stage.awaited epoch = some .logout then some .loggedOut else none) = stage.lastChange := by
  cases stage <;> rfl

namespace AuthGateway

variable {g g' : AuthGateway} {a : AuthAction} {c : AuthCall} {es : List AuthEvent}
  {outcome : Except AuthError SessionPhase} {l : Ledger}

def awaited (g : AuthGateway) (id : Nat) : Option Awaited :=
  (g.call? id).bind (·.stage.awaited g.store.epoch)

/-- The ledger knows what each call waits for. -/
def Mirrors (g : AuthGateway) (l : Ledger) : Prop :=
  ∀ id, l.awaited id = g.awaited id

theorem awaited_of_live {id : Nat} (live : g.call? id = some c) :
    g.awaited id = c.stage.awaited g.store.epoch := by
  simp [awaited, live]

theorem Mirrors.of_live (h : g.Mirrors l) {id : Nat} (live : g.call? id = some c) :
    l.awaited id = c.stage.awaited g.store.epoch :=
  (h id).trans (awaited_of_live live)

theorem Mirrors.of_not_live (h : g.Mirrors l) {id : Nat} (gone : g.call? id = none) :
    l.awaited id = none := by
  rw [h id, awaited, gone]
  rfl


-- ---------------------------------------------------------------------------
-- One step of both
-- ---------------------------------------------------------------------------

/-- What a call waits for after a change of the session. -/
theorem awaited_after {change : Option SessionChange} (admits : g.Admits c) :
    c.stage.awaited (g.store.after change).epoch =
      (c.stage.awaited g.store.epoch).map (Ledger.revise change) := by
  cases change with
  | none =>
    rw [Ledger.revise_of_inside rfl, Option.map_id]
    rfl
  | some change =>
    rw [SessionStore.after, SessionChange.commit_epoch]
    cases hb : change.isBoundary with
    | false =>
      have hinside : (some change).any (·.isBoundary) = false := hb
      rw [Ledger.revise_of_inside hinside, Option.map_id]
      rfl
    | true =>
      have hboundary : (some change).any (·.isBoundary) = true := hb
      rw [Ledger.revise_of_boundary hboundary, if_pos rfl]
      cases hs : c.stage with
      | refreshing issued =>
        have hle : issued ≤ g.store.epoch := by
          unfold Admits at admits
          rw [hs] at admits
          exact admits.2.2.1
        simp [AuthStage.awaited, Awaited.crossed, Nat.ne_of_lt (Nat.lt_succ_of_le hle)]
      | _ => rfl

theorem IsDisciplined.authenticated_of_refreshing (h : g.IsDisciplined) {id : Nat}
    (live : g.call? id = some c) (stage : c.stage = .refreshing g.store.epoch) :
    g.store.phase = .authenticated := by
  have hadmits := h.admitted live
  unfold Admits at hadmits
  rw [stage] at hadmits
  exact hadmits.2.2.2 rfl

theorem Mirrors.completion_reply (h : g.Mirrors l) (live : g.call? c.id = some c)
    (reply : BackendReply) : l.completion (.reply c.id reply) =
      (c.stage.awaited g.store.epoch).bind (·.completes reply) := by
  rw [Ledger.completion, h.of_live live]

theorem Mirrors.completion_cancel (h : g.Mirrors l) (live : g.call? c.id = some c) :
    l.completion (.cancel c.id) = c.stage.lastChange := by
  rw [Ledger.completion, h.of_live live, AuthStage.lastChange_of_awaited]

theorem Mirrors.expects_reply (h : g.Mirrors l) (live : g.call? c.id = some c)
    (reply : BackendReply) : l.expects (.reply c.id reply) none =
      if c.stage.hears reply then none else c.stage.awaited g.store.epoch := by
  rw [← c.stage.filter_hears, ← h.of_live live]
  rfl

/-- The observer sees complete exactly what the gateway writes. -/
theorem Step.completion_eq (h : g.Step a g' es) (disciplined : g.IsDisciplined)
    (mirrors : g.Mirrors l) : (l.completion a).toList = changesIn es := by
  cases h with
  | @stay a ignored =>
    cases a with
    | reply id reply =>
      cases hc : g.call? id with
      | none => simp [Ledger.completion, mirrors.of_not_live hc]
      | some c =>
        obtain rfl := call?_id hc
        rw [mirrors.completion_reply hc, AuthStage.completes_of_not_hears (ignored c hc)]
        rfl
    | cancel id => simp [Ledger.completion, mirrors.of_not_live ignored]
    | _ => rfl
  | proceed live stage ended proceeds => exact proceeds.changesIn_eq.symm
  | identify live stage =>
    rw [mirrors.completion_reply live, stage]
    rfl
  | settle live ends proceeds =>
    rw [mirrors.completion_reply live, ends.completes]
    simp [proceeds.changesIn_eq, AuthEvent.change?]
  | finish live finishes =>
    rw [mirrors.completion_reply live,
      finishes.completes (disciplined.authenticated_of_refreshing live)]
    simp [finishes.changesIn_eq, AuthEvent.change?]
  | abandon live holds =>
    rw [mirrors.completion_cancel live]
    simp [changesIn_lastChange, AuthEvent.change?]
  | withdraw live free =>
    rw [mirrors.completion_cancel live]
    simp [changesIn_lastChange, AuthEvent.change?]
  | _ => rfl

theorem awaited_eq_none_of_gone {id : Nat} (gone : g.call? id = none) : g.awaited id = none := by
  simp [awaited, gone]

/-- The calls that do not take the step wait for what they waited for, unless the session that
they asked in is over. -/
theorem Step.revise_eq (h : g.Step a g' es) (disciplined : g.IsDisciplined)
    (mirrors : g.Mirrors l) {id : Nat} (other : id ≠ a.caller) :
    (l.awaited id).map (Ledger.revise (l.completion a)) = g'.awaited id := by
  have hstore : g'.store = g.store.after (l.completion a) := by
    rw [h.store_eq, ← h.completion_eq disciplined mirrors, SessionStore.replay_toList]
  cases hc : g.call? id with
  | none =>
    rw [mirrors.of_not_live hc, awaited_eq_none_of_gone ((h.call?_of_ne other).trans hc)]
    rfl
  | some c =>
    rw [mirrors.of_live hc, awaited_of_live ((h.call?_of_ne other).trans hc), hstore,
      awaited_after (disciplined.admitted hc)]

theorem Proceeds.expects_eq (h : g.Proceeds c outcome g' es) (live : g.call? c.id = some c)
    (distinct : (g.calls.map (·.id)).Nodup) (idle : l.expects a none = none)
    (own : l.asks a .token = .freshToken true) :
    l.expects a (sentIn es) = g'.awaited c.id := by
  cases h with
  | decline =>
    rw [awaited_eq_none_of_gone (call?_remove_self distinct)]
    exact idle
  | send sends =>
    rw [awaited_of_live (call?_moveTo_self live _)]
    generalize c.request = request at sends
    cases sends with
    | refresh authenticated =>
      simpa [sentIn, AuthEvent.sent?, Ledger.expects, AuthStage.awaited, moveTo] using own
    | _ => rfl

/-- The observer knows what the caller of a step waits for after it. -/
theorem Step.expects_eq (h : g.Step a g' es) (disciplined : g.IsDisciplined)
    (mirrors : g.Mirrors l) : l.expects a (sentIn es) = g'.awaited a.caller := by
  have hgone {c : AuthCall} : (g.remove c).call? c.id = none :=
    call?_remove_self disciplined.distinct
  cases h with
  | @stay a ignored =>
    cases a with
    | start id request => exact mirrors id
    | run id => exact mirrors id
    | reply id reply =>
      cases hc : g.call? id with
      | none =>
        simp [Ledger.expects, sentIn, mirrors.of_not_live hc, awaited, AuthAction.caller, hc]
      | some c =>
        obtain rfl := call?_id hc
        refine (mirrors.expects_reply hc reply).trans ?_
        rw [ignored c hc]
        exact (awaited_of_live hc).symm
    | cancel id => exact (awaited_eq_none_of_gone ignored).symm
  | @arrive id request fresh =>
    have hself := call?_arrive_self fresh request
    exact (mirrors.of_not_live fresh).trans (awaited_of_live hself).symm
  | probe live => exact (awaited_of_live (call?_probe_self live)).symm
  | @enqueue c holder live ready =>
    have hself : ({ g.moveTo c .queued with queue := g.queue ++ [c.id] } : AuthGateway).call? c.id =
        some { c with stage := .queued } := call?_moveTo_self live .queued
    refine (mirrors.of_live live).trans ?_
    rw [ready]
    exact (awaited_of_live hself).symm
  | proceed live stage ended proceeds =>
    refine proceeds.expects_eq live disciplined.distinct ?_ rfl
    refine (mirrors.of_live live).trans ?_
    rcases stage with hs | hs <;> rw [hs] <;> rfl
  | @identify c identity live stage =>
    have hself := call?_moveTo_self live (.probingToken identity)
    have hasks : l.asks (.reply c.id (.identity identity)) .token = .startupToken identity := by
      simp only [Ledger.asks, AuthAction.caller, mirrors.of_live live, stage, AuthStage.awaited]
    exact (congrArg some hasks).trans (awaited_of_live hself).symm
  | settle live ends proceeds =>
    refine proceeds.expects_eq live disciplined.distinct ?_ ?_
    · rw [mirrors.expects_reply live, if_pos ends.hears]
    · generalize AuthCall.stage _ = stage at ends
      cases ends <;> rfl
  | finish live finishes =>
    rw [finishes.sentIn_eq, mirrors.expects_reply live, if_pos finishes.hears]
    refine (awaited_eq_none_of_gone ?_).symm
    exact hgone
  | abandon live holds =>
    rw [sentIn_lastChange]
    refine (awaited_eq_none_of_gone ?_).symm
    exact (handOver_call? _ _).trans hgone
  | withdraw live free =>
    rw [sentIn_lastChange]
    refine (awaited_eq_none_of_gone ?_).symm
    exact hgone

theorem Step.mirrors (h : g.Step a g' es) (disciplined : g.IsDisciplined)
    (mirrors : g.Mirrors l) : g'.Mirrors (l.note a (sentIn es)) := by
  intro id
  by_cases hid : id = a.caller
  · subst hid
    exact (if_pos rfl).trans (h.expects_eq disciplined mirrors)
  · exact (if_neg hid).trans (h.revise_eq disciplined mirrors hid)


-- ---------------------------------------------------------------------------
-- Runs of both
-- ---------------------------------------------------------------------------

theorem traffic_snoc (g : AuthGateway) (actions : List AuthAction) (a : AuthAction) :
    g.traffic (actions ++ [a]) =
      g.traffic actions ++ [(a, sentIn ((g.runAll actions).1.act a).2)] := by
  induction actions generalizing g with
  | nil => rfl
  | cons b actions ih => simp [traffic, runAll, ih]

/-- The ledger of an observer who was there from the start of a gateway on `store`. -/
def ledger (store : SessionStore) (actions : List AuthAction) : Ledger :=
  Ledger.read (({ store } : AuthGateway).traffic actions)

theorem ledger_snoc (store : SessionStore) (actions : List AuthAction) (a : AuthAction) :
    ledger store (actions ++ [a]) =
      (ledger store actions).note a (sentIn ((history store actions).1.act a).2) := by
  simp [ledger, history, traffic_snoc, Ledger.read]

theorem mirrors_history (store : SessionStore) (actions : List AuthAction) :
    (history store actions).1.Mirrors (ledger store actions) := by
  induction actions using List.reverseRecOn with
  | nil => exact fun _ => rfl
  | append_singleton actions a ih =>
    rw [history_snoc, ledger_snoc]
    exact (step_act _ a).mirrors (isDisciplined_history store actions) ih

theorem log_ledger (store : SessionStore) (actions : List AuthAction) :
    (ledger store actions).log = changesIn (history store actions).2 := by
  induction actions using List.reverseRecOn with
  | nil => rfl
  | append_singleton actions a ih =>
    have hcompletion := (step_act _ a).completion_eq (isDisciplined_history store actions)
      (mirrors_history store actions)
    rw [history_snoc, ledger_snoc, changesIn_append, ← ih, ← hcompletion]
    rfl

/-- The store holds the replay of the transitions that complete, in their order, and nothing
else writes it. The startup probe completes once, before all others. -/
theorem store_is_replay (store : SessionStore) (actions : List AuthAction) :
    let g := (history store actions).1
    let l := ledger store actions
    g.store.state = l.log.foldl SessionChange.apply store.state ∧
    g.store = store.replay l.log ∧
    changesIn (history store actions).2 = l.log ∧
    (∀ a, (g.act a).1.store = g.store.after (l.completion a)) ∧
    ∀ before change after, l.log = before ++ change :: after →
      (change.isProbes = true ↔ before = []) := by
  intro g l
  have hlog : l.log = changesIn (history store actions).2 := log_ledger store actions
  have hstore : g.store = store.replay l.log := by
    rw [hlog]
    exact runAll_store { store } actions
  refine ⟨?_, hstore, hlog.symm, ?_, ?_⟩
  · rw [hstore, SessionStore.replay_state]
  · intro a
    have hstep := step_act g a
    rw [hstep.store_eq, ← SessionStore.replay_toList, hstep.completion_eq
      (isDisciplined_history store actions) (mirrors_history store actions)]
  · rw [hlog]
    exact (isProbes_iff_first store actions).2

/-- A logout runs the probe and is dropped while the backend works on it; a refresh that asked
for its token before that completes nothing. -/
theorem store_is_replay_of_dropped_logout :
    let actions : List AuthAction :=
      [.start 1 .logout, .run 1, .start 2 .refreshToken, .run 2, .reply 1 (.identity "ada"),
       .reply 1 (.token "old"), .run 2, .cancel 1, .reply 2 (.token "new")]
    (ledger {} actions).log = [.probedAuthenticated "ada" "old"] ++ .loggedOut :: [] ∧
      (history {} actions).1.store.state = .anonymous ∧
      ¬SessionChange.loggedOut.isProbes := by
  intro actions
  have hlog : (ledger {} actions).log =
      [.probedAuthenticated "ada" "old"] ++ .loggedOut :: [] := by decide +kernel
  obtain ⟨hstate, _, _, _, hfirst⟩ := store_is_replay {} actions
  refine ⟨hlog, ?_, ?_⟩
  · rw [hstate, hlog]
    rfl
  · rw [hfirst _ _ _ hlog]
    exact List.cons_ne_nil _ _

end AuthGateway

end DashboardClient
