import DashboardClient.Proofs.Auth.Calls

/-!
# Redaction

Redacting takes secrets and tokens out and leaves all else: of a secret it only shows whether there
is one, and of a token that there is one. What a step of the gateway does to the redacted gateway
is what it does to the gateway, redacted. So nothing that redaction leaves, log lines among it,
depends on a secret or a token.
-/

namespace DashboardClient

-- ---------------------------------------------------------------------------
-- Redacting
-- ---------------------------------------------------------------------------

/-- A secret that only shows whether it is empty. -/
def hiddenSecret (secret : String) : String :=
  if secret.isEmpty then "" else "*"

/-- A token that only shows that it is there. -/
def hiddenToken : String := ""

@[simp] theorem isEmpty_hiddenSecret (secret : String) :
    (hiddenSecret secret).isEmpty = secret.isEmpty := by
  unfold hiddenSecret
  cases h : secret.isEmpty <;> decide

def SessionState.redact : SessionState → SessionState
  | .authenticated identity _ => .authenticated identity hiddenToken
  | s => s

/-- The store without its tokens. A new token is no news without its text, so the versions that are
left are the boundaries. -/
def SessionStore.redact (s : SessionStore) : SessionStore where
  watched := { value := s.state.redact, version := s.epoch }
  epoch := s.epoch

def SessionChange.redact : SessionChange → SessionChange
  | .probedAuthenticated identity _ => .probedAuthenticated identity hiddenToken
  | .loggedIn identity _ => .loggedIn identity hiddenToken
  | .tokenReplaced _ => .tokenReplaced hiddenToken
  | change => change

def AuthRequest.redact : AuthRequest → AuthRequest
  | .login identity secret => .login identity (hiddenSecret secret)
  | request => request

def AuthCall.redact (c : AuthCall) : AuthCall :=
  { c with request := c.request.redact }

def AuthAnswer.redact : AuthAnswer → AuthAnswer
  | .session s => .session s.redact
  | .token _ => .token hiddenToken
  | a => a

def BackendCall.redact : BackendCall → BackendCall
  | .login identity secret => .login identity (hiddenSecret secret)
  | .logout held => .logout (held.map fun _ => hiddenToken)
  | c => c

def BackendReply.redact : BackendReply → BackendReply
  | .token _ => .token hiddenToken
  | .login session => .login ⟨session.identity, hiddenToken⟩
  | r => r

def AuthEvent.redact : AuthEvent → AuthEvent
  | .sent id call => .sent id call.redact
  | .changed id change => .changed id change.redact
  | .answered id answer => .answered id answer.redact
  | e => e

def AuthAction.redact : AuthAction → AuthAction
  | .start id request => .start id request.redact
  | .reply id r => .reply id r.redact
  | a => a

namespace AuthGateway

def redact (g : AuthGateway) : AuthGateway :=
  { g with store := g.store.redact, calls := g.calls.map (·.redact) }

/-- What becomes of the gateway in a step and what happens in it, redacted. -/
def redactStep (step : AuthGateway × List AuthEvent) : AuthGateway × List AuthEvent :=
  (step.1.redact, step.2.map (·.redact))

end AuthGateway


-- ---------------------------------------------------------------------------
-- What redaction leaves
-- ---------------------------------------------------------------------------

@[simp] theorem BackendCall.kind_redact (call : BackendCall) : call.redact.kind = call.kind := by
  cases call <;> rfl

namespace SessionState

@[simp] theorem phase_redact (s : SessionState) : s.redact.phase = s.phase := by
  cases s <;> rfl

@[simp] theorem identity?_redact (s : SessionState) : s.redact.identity? = s.identity? := by
  cases s <;> rfl

@[simp] theorem isResolving_redact (s : SessionState) : s.redact.isResolving = s.isResolving := by
  cases s <;> rfl

theorem token?_redact (s : SessionState) :
    s.redact.token? = s.token?.map fun _ => hiddenToken := by
  cases s <;> rfl

end SessionState

namespace SessionStore

@[simp] theorem state_redact (s : SessionStore) : s.redact.state = s.state.redact := rfl

@[simp] theorem phase_redact (s : SessionStore) : s.redact.phase = s.phase :=
  s.state.phase_redact

theorem redact_eq_of_state {s t : SessionStore} (hstate : s.state.redact = t.state.redact)
    (hepoch : s.epoch = t.epoch) : s.redact = t.redact := by
  simp only [redact, hstate, hepoch]

/-- Whether a token is taken depends on the session that it is for and not on its text, although
an equal one makes no new version. -/
theorem replaceToken_redact (s : SessionStore) (epoch : Nat) (token : String) :
    s.redact.replaceToken epoch hiddenToken =
      ((s.replaceToken epoch token).1, (s.replaceToken epoch token).2.redact) := by
  have hredacted : s.redact.epoch = s.epoch := rfl
  cases hs : s.state with
  | authenticated identity current =>
    simp only [replaceToken, state_redact, hs, SessionState.redact, hredacted, if_true]
    split
    · split
      · rfl
      · refine Prod.ext rfl (redact_eq_of_state ?_ rfl)
        rw [hs]
        rfl
    · rfl
  | initializing => simp only [replaceToken, state_redact, hs, SessionState.redact]
  | anonymous => simp only [replaceToken, state_redact, hs, SessionState.redact]

end SessionStore

theorem map_replaceFirst {α β : Type} {p : α → Bool} {q : β → Bool} {f : α → β}
    (same : ∀ x, q (f x) = p x) (new : Option α) (xs : List α) :
    (replaceFirst p new xs).map f = replaceFirst q (new.map f) (xs.map f) := by
  induction xs with
  | nil => rfl
  | cons x xs ih =>
    simp only [replaceFirst, List.map_cons, same]
    cases p x with
    | true => cases new <;> rfl
    | false => simp [ih]


-- ---------------------------------------------------------------------------
-- Steps of the redacted gateway
-- ---------------------------------------------------------------------------

namespace AuthGateway

variable (g : AuthGateway) (c : AuthCall)

theorem call?_redact (id : Nat) : g.redact.call? id = (g.call? id).map (·.redact) :=
  List.find?_map

theorem redact_moveTo (stage : AuthStage) :
    (g.moveTo c stage).redact = g.redact.moveTo c.redact stage := by
  have hcalls := map_replaceFirst (p := (·.id == c.id)) (q := (·.id == c.id)) (f := AuthCall.redact)
    (fun _ => rfl) (some { c with stage }) g.calls
  simp only [redact, moveTo, hcalls]
  rfl

theorem redact_remove : (g.remove c).redact = g.redact.remove c.redact := by
  have hcalls := map_replaceFirst (p := (·.id == c.id)) (q := (·.id == c.id)) (f := AuthCall.redact)
    (fun _ => rfl) none g.calls
  simp only [redact, remove, hcalls]
  rfl

theorem redact_send (stage : AuthStage) (call : BackendCall) :
    redactStep (g.send c stage call) = g.redact.send c.redact stage call.redact := by
  simp only [redactStep, send, redact_moveTo]
  rfl

theorem redact_answer (answer : AuthAnswer) :
    redactStep (g.answer c answer) = g.redact.answer c.redact answer.redact := by
  simp only [redactStep, AuthGateway.answer, redact_remove]
  rfl

theorem redact_start (id : Nat) (request : AuthRequest) :
    (g.start id request).redact = g.redact.start id request.redact := by
  simp only [start, call?_redact, Option.isSome_map]
  split
  · rfl
  · simp [redact, AuthCall.redact]

/-- Only whether the secret is empty decides on a login. -/
theorem redact_proceed (outcome : Except AuthError SessionPhase) :
    redactStep (g.proceed c outcome) = g.redact.proceed c.redact outcome := by
  obtain ⟨id, request, stage⟩ := c
  cases request with
  | probe => cases outcome <;> exact redact_answer g _ _
  | login identity secret =>
    simp only [proceed, AuthCall.redact, AuthRequest.redact, isEmpty_hiddenSecret]
    split
    · exact redact_answer g _ _
    · exact redact_send g _ _ _
  | logout =>
    have htoken : g.redact.store.token? = g.store.token?.map fun _ => hiddenToken :=
      g.store.state.token?_redact
    simp only [proceed, AuthCall.redact, AuthRequest.redact, htoken]
    exact redact_send g _ _ _
  | refreshToken =>
    have hphase : g.redact.store.phase = g.store.phase := g.store.phase_redact
    simp only [proceed, AuthCall.redact, AuthRequest.redact, hphase]
    split
    · exact redact_send g _ _ _
    · exact redact_answer g _ _

theorem redact_runProbe : redactStep (g.runProbe c) = g.redact.runProbe c.redact :=
  redact_send { g with probe := .running c.id } c .probingIdentity .probe

theorem redact_run : redactStep (g.run c) = g.redact.run c.redact := by
  have hstay : redactStep (g, []) = (g.redact, []) := rfl
  obtain ⟨store, probe, queue, calls⟩ := g
  obtain ⟨id, request, stage⟩ := c
  cases stage with
  | ready =>
    cases probe with
    | unstarted => exact redact_runProbe _ _
    | running holder =>
      have hmoved := redact_moveTo ⟨store, .running holder, queue, calls⟩ ⟨id, request, .ready⟩ .queued
      refine Prod.ext ?_ rfl
      exact congrArg (fun moved : AuthGateway => { moved with queue := queue ++ [id] }) hmoved
    | settled outcome => exact redact_proceed _ _ outcome
  | queued =>
    cases probe with
    | unstarted => exact hstay
    | running holder =>
      simp only [run]
      by_cases hholder : holder = id
      · subst hholder
        simp only [AuthCall.redact, redact, if_true]
        exact redact_runProbe _ _
      · simp only [AuthCall.redact, redact, hholder, if_false]
        rfl
    | settled outcome => exact redact_proceed _ _ outcome
  | _ => exact hstay

theorem redact_settleProbe (outcome : Except AuthError SessionPhase) (change : SessionChange)
    (store : SessionStore) (notice : AuthNotice) :
    redactStep (g.settleProbe c outcome change store notice) =
      g.redact.settleProbe c.redact outcome change.redact store.redact notice := by
  have hproceed := redact_proceed { g with store, probe := .settled outcome, queue := [] } c outcome
  simp only [settleProbe]
  exact congrArg (fun step : AuthGateway × List AuthEvent =>
    (step.1, .noted c.id notice :: .changed c.id change.redact :: step.2)) hproceed

theorem redact_installToken (epoch : Nat) (token : String) :
    redactStep (g.installToken c epoch token) =
      g.redact.installToken c.redact epoch hiddenToken := by
  have hreplaced := g.store.replaceToken_redact epoch token
  have hstore : g.redact.store = g.store.redact := rfl
  unfold installToken
  rw [hstore, hreplaced]
  cases hr : g.store.replaceToken epoch token with
  | mk taken store =>
    cases taken with
    | true =>
      exact congrArg (fun step : AuthGateway × List AuthEvent =>
        (step.1, .changed c.id (.tokenReplaced hiddenToken) :: step.2))
        (redact_answer { g with store } c (.token token))
    | false =>
      exact congrArg (fun step : AuthGateway × List AuthEvent =>
        (step.1, .noted c.id .tokenOutlived :: step.2))
        (redact_answer g c (.error .notAuthenticated))

/-- A call ends after something was noted or changed. -/
theorem redact_answer_after (es : List AuthEvent) (answer : AuthAnswer) :
    redactStep ((g.answer c answer).1, es ++ (g.answer c answer).2) =
      ((g.redact.answer c.redact answer.redact).1,
        es.map (·.redact) ++ (g.redact.answer c.redact answer.redact).2) := by
  rw [← redact_answer]
  simp [redactStep]

theorem redact_receive (reply : BackendReply) :
    redactStep (g.receive c reply) = g.redact.receive c.redact reply.redact := by
  obtain ⟨id, request, stage⟩ := c
  cases stage with
  | probingIdentity =>
    cases reply with
    | identity identity => exact redact_send g _ _ _
    | failed e => cases e <;> exact redact_settleProbe g _ _ _ _ _
    | _ => rfl
  | probingToken identity =>
    cases reply with
    | token token => exact redact_settleProbe g _ _ _ _ _
    | failed e => exact redact_settleProbe g _ _ _ _ _
    | _ => rfl
  | loggingIn identity =>
    cases reply with
    | login session =>
      exact redact_answer_after
        { g with store := g.store.setAuthenticated session.identity session.token } _
        [.noted id (.loggedIn session.identity),
          .changed id (.loggedIn session.identity session.token)] _
    | failed e =>
      simp only [receive, AuthCall.redact, BackendReply.redact]
      split
      · exact redact_answer_after g _ [.noted id (.loginRejected identity e)] _
      · exact redact_answer_after g _ [.noted id (.loginFailed e)] _
    | _ => rfl
  | loggingOut =>
    cases reply with
    | loggedOut =>
      exact redact_answer_after g.clearSession _ [.changed id .loggedOut, .noted id .loggedOut] _
    | failed e =>
      exact redact_answer_after g.clearSession _ [.changed id .loggedOut, .noted id (.logoutFailed e)] _
    | _ => rfl
  | refreshing epoch =>
    cases reply with
    | token token => exact redact_installToken g _ epoch token
    | failed e => exact redact_answer g _ _
    | _ => rfl
  | _ => cases reply <;> rfl

theorem redact_handOver : g.handOver.redact = g.redact.handOver := by
  obtain ⟨store, probe, queue, calls⟩ := g
  cases queue <;> rfl

theorem redact_cancel : redactStep (g.cancel c) = g.redact.cancel c.redact := by
  have hholds : (g.redact.remove c.redact).holdsProbe c.redact = (g.remove c).holdsProbe c := rfl
  have hfreed : (if (g.remove c).holdsProbe c then (g.remove c).handOver
        else { g.remove c with queue := (g.remove c).queue.filter (· != c.id) }).redact =
      if (g.redact.remove c.redact).holdsProbe c.redact then (g.redact.remove c.redact).handOver
        else { g.redact.remove c.redact with
          queue := (g.redact.remove c.redact).queue.filter (· != c.redact.id) } := by
    rw [hholds]
    split
    · rw [redact_handOver, redact_remove]
    · exact congrArg (fun gone : AuthGateway =>
        { gone with queue := gone.queue.filter (· != c.id) }) (redact_remove g c)
  obtain ⟨id, request, stage⟩ := c
  cases stage with
  | loggingOut => exact Prod.ext (congrArg clearSession hfreed) rfl
  | _ => exact Prod.ext hfreed rfl

/-- Redacting commutes with every step. -/
theorem redact_act (a : AuthAction) : redactStep (g.act a) = g.redact.act a.redact := by
  cases a with
  | start id request => exact Prod.ext (redact_start g id request) rfl
  | run id =>
    simp only [act, AuthAction.redact, call?_redact]
    cases g.call? id with
    | none => rfl
    | some c => exact redact_run g c
  | reply id reply =>
    simp only [act, AuthAction.redact, call?_redact]
    cases g.call? id with
    | none => rfl
    | some c => exact redact_receive g c reply
  | cancel id =>
    simp only [act, AuthAction.redact, call?_redact]
    cases g.call? id with
    | none => rfl
    | some c => exact redact_cancel g c

/-- Redacting commutes with whole runs, so what redaction leaves of the events never depends on
what it takes out of the gateway, the requests and the replies. -/
theorem redact_runAll (actions : List AuthAction) :
    redactStep (g.runAll actions) = g.redact.runAll (actions.map (·.redact)) := by
  induction actions generalizing g with
  | nil => rfl
  | cons a rest ih =>
    have hstep := g.redact_act a
    have hrest := ih (g.act a).1
    simp only [redactStep] at hstep hrest
    simp only [redactStep, List.map_cons, runAll, ← hstep, ← hrest, List.map_append]

end AuthGateway

end DashboardClient
