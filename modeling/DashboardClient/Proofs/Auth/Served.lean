import DashboardClient.Http.Connection
import DashboardClient.Proofs.Auth.Reports

/-!
# Calls that are served at once

On a connection every reply comes without a wait. A call that starts while nothing else
goes on is over when its start returns, and what it has done by then is written out here:
one equation for a probe that finds a session, for one that finds none, for a login and
for a logout.
-/

namespace DashboardClient

-- ---------------------------------------------------------------------------
-- Replies
-- ---------------------------------------------------------------------------

namespace Connection

theorem replyOf_cases {α : Type} (f : α → BackendReply) (outcome : Except ApiError α) :
    (∃ value, replyOf f outcome = f value) ∨ ∃ e, replyOf f outcome = .failed e := by
  cases outcome with
  | ok value => exact Or.inl ⟨value, rfl⟩
  | error e => exact Or.inr ⟨e, rfl⟩

variable (c : Connection)

theorem call_probe_cases :
    (∃ identity, (c.call .probe).1 = .identity identity) ∨ ∃ e, (c.call .probe).1 = .failed e := by
  simp only [call]
  rcases replyOf_cases (.identity ·.identity) c.probe.1 with ⟨value, h⟩ | h
  · exact Or.inl ⟨value.identity, h⟩
  · exact Or.inr h

theorem call_token_cases :
    (∃ token, (c.call .token).1 = .token token) ∨ ∃ e, (c.call .token).1 = .failed e := by
  simp only [call]
  rcases replyOf_cases (.token ·.token) c.fetchToken.1 with ⟨value, h⟩ | h
  · exact Or.inl ⟨value.token, h⟩
  · exact Or.inr h

theorem call_login_cases (identity secret : String) :
    (∃ reply, (c.call (.login identity secret)).1 = .login reply) ∨
      ∃ e, (c.call (.login identity secret)).1 = .failed e := by
  simp only [call]
  exact replyOf_cases .login (c.login { identity, secret }).1

theorem call_logout_cases (token : Option String) :
    (c.call (.logout token)).1 = .loggedOut ∨ ∃ e, (c.call (.logout token)).1 = .failed e := by
  simp only [call]
  rcases replyOf_cases (fun _ => .loggedOut) (c.logout token).1 with ⟨_, h⟩ | h
  · exact Or.inl h
  · exact Or.inr h

end Connection


-- ---------------------------------------------------------------------------
-- A gateway with one call
-- ---------------------------------------------------------------------------

namespace AuthGateway

/-- The gateway while the call is the only one. -/
def only (g : AuthGateway) (c : AuthCall) : AuthGateway :=
  { g with calls := [c] }

/-- The gateway without calls. -/
def idle (g : AuthGateway) : AuthGateway :=
  { g with calls := [] }

variable (g : AuthGateway) (c : AuthCall)

@[simp] theorem only_call? : (g.only c).call? c.id = some c := by
  simp [call?, only]

theorem act_run_only : (g.only c).act (.run c.id) = (g.only c).run c := by
  simp only [act, only_call?]

theorem act_reply_only (reply : BackendReply) :
    (g.only c).act (.reply c.id reply) = (g.only c).receive c reply := by
  simp only [act, only_call?]

/-- What a probe answers once it has settled. -/
def probeAnswer : Except AuthError SessionPhase → AuthAnswer
  | .ok phase => .phase phase
  | .error e => .error e

/-- The only call settles the probe that it has started, and answers how it went. -/
theorem settleProbe_only (hrequest : c.request = .probe) (outcome : Except AuthError SessionPhase)
    (change : SessionChange) (notice : AuthNotice) :
    (g.only c).settleProbe c outcome change (change.commit g.store) notice =
      ((g.settled change outcome).idle,
        [.noted c.id notice, .changed c.id change, .answered c.id (probeAnswer outcome)]) := by
  cases outcome <;>
    simp [settleProbe, proceed, hrequest, answer, remove, only, idle, settled, probeAnswer,
      replaceFirst]

/-- Whatever keeps the identity from coming, the probe ends without a session. -/
theorem receive_failed_identity (hstage : c.stage = .probingIdentity) (e : ApiError) :
    ∃ notice, g.receive c (.failed e) = g.settleAnonymous c (.ok .anonymous) notice := by
  cases e <;> exact ⟨_, by simp only [receive, hstage]; rfl⟩

end AuthGateway


-- ---------------------------------------------------------------------------
-- A world in which one call goes on
-- ---------------------------------------------------------------------------

namespace AuthWorld

/-- Nothing goes on in the world. -/
structure IsQuiet {σ : Type} (w : AuthWorld σ) : Prop where
  pending : w.pending = []
  waiters : w.waiters = []
  calls : w.gateway.calls = []

/-- The world once the gateway has come to `g`, the backend to `backend`, and the events have
been reported. -/
def after (w : AuthWorld Connection) (g : AuthGateway) (events : List AuthEvent)
    (backend : Connection) : AuthWorld Connection :=
  { w with
    gateway := g
    backend
    pending := []
    history := (events.map fun e => (w.now, e)).reverse ++ w.history }

section

variable {w : AuthWorld Connection} {a : AuthAction} {g g' : AuthGateway} {es es' : List AuthEvent}
  {b b' : Connection}

theorem after_after : (w.after g es b).after g' es' b' = w.after g' (es ++ es') b' := by
  simp [after]

theorem isQuiet_after (hwaiters : w.waiters = []) (hcalls : g.calls = []) :
    (w.after g es b).IsQuiet :=
  ⟨rfl, hwaiters, hcalls⟩

/-- A reply that is due arrives first. -/
theorem runUntilIdle_of_due (w : AuthWorld Connection) {p : PendingReply} (hdue : p.due ≤ w.now) :
    ({ w with pending := [p] } : AuthWorld Connection).runUntilIdle =
      (({ w with pending := [] } : AuthWorld Connection).act
        (.reply p.id p.reply)).runUntilIdle := by
  refine runUntilIdle_of_some ?_
  simp only [step?, List.find?, isDue, hdue, decide_true, replaceFirst, if_true,
    Option.toList_none, List.nil_append]

/-- The gateway asks the backend and gets the reply at once. -/
theorem act_exchange (hpending : w.pending = []) (hact : w.gateway.act a = (g, es)) {id : Nat}
    {call : BackendCall} (hsent : es.findSome? AuthEvent.sent? = some (id, call)) :
    (w.act a).runUntilIdle =
      ((w.after g es (w.backend.call call).2).act
        (.reply id (w.backend.call call).1)).runUntilIdle := by
  have hw : w.act a =
      { w.after g es (w.backend.call call).2 with
        pending := [⟨id, w.now, (w.backend.call call).1⟩] } := by
    simp only [act, hact, hsent, serve, Backend.serve, hpending, after]
  rw [hw, runUntilIdle_of_due _ (Nat.le_refl w.now)]
  rfl

/-- The gateway asks for nothing, and no call is left. -/
theorem act_silence (hpending : w.pending = []) (hwaiters : w.waiters = [])
    (hact : w.gateway.act a = (g, es)) (hsent : es.findSome? AuthEvent.sent? = none)
    (hcalls : g.calls = []) : (w.act a).runUntilIdle = w.after g es w.backend := by
  have hw : w.act a = w.after g es w.backend := by
    simp only [act, hact, hsent, after, hpending]
  rw [hw]
  refine runUntilIdle_of_none ?_
  simp [step?, after, hwaiters, hcalls]

/-- The world in which a call has just been given the next number. -/
def calling (w : AuthWorld Connection) (request : AuthRequest) : AuthWorld Connection :=
  { w with started := w.started + 1, gateway := w.gateway.only { id := w.started, request } }

/-- A call that starts in a quiet world runs at once. -/
theorem start_quiet (quiet : w.IsQuiet) (request : AuthRequest) :
    w.start request = ((w.calling request).act (.run w.started)).runUntilIdle := by
  have harrive : ({ w with started := w.started + 1 } : AuthWorld Connection).act
      (.start w.started request) = w.calling request := by
    simp [act, AuthGateway.act, AuthGateway.start, AuthGateway.call?, quiet.calls, calling,
      AuthGateway.only]
  have hstep : (w.calling request).step? = some ((w.calling request).act (.run w.started)) := by
    simp [step?, calling, quiet.pending, quiet.waiters, runsNow, AuthGateway.only,
      AuthGateway.call?, AuthGateway.isReady]
  rw [start, harrive, runUntilIdle_of_some hstep]

/-- What the only call of a world asks for first. -/
theorem start_sends (quiet : w.IsQuiet) {request : AuthRequest} {call : BackendCall}
    (hrun : (w.gateway.only { id := w.started, request }).run { id := w.started, request } =
      (g, [.sent w.started call])) :
    w.start request =
      (((w.calling request).after g [.sent w.started call] (w.backend.call call).2).act
        (.reply w.started (w.backend.call call).1)).runUntilIdle := by
  have hact : (w.calling request).gateway.act (.run w.started) = (g, [.sent w.started call]) :=
    (AuthGateway.act_run_only w.gateway { id := w.started, request }).trans hrun
  rw [start_quiet quiet]
  exact act_exchange (w := w.calling request) quiet.pending hact rfl

/-- A reply to the only call makes it ask for more. -/
theorem reply_asks (w' : AuthWorld Connection) {c c' : AuthCall} {reply : BackendReply}
    {call : BackendCall}
    (hreceive : (g.only c).receive c reply = (g'.only c', [.sent c.id call])) :
    ((w'.after (g.only c) es b).act (.reply c.id reply)).runUntilIdle =
      ((w'.after (g'.only c') (es ++ [.sent c.id call]) (b.call call).2).act
        (.reply c.id (b.call call).1)).runUntilIdle := by
  have hact : (w'.after (g.only c) es b).gateway.act (.reply c.id reply) =
      (g'.only c', [.sent c.id call]) :=
    (AuthGateway.act_reply_only g c reply).trans hreceive
  rw [act_exchange (w := w'.after (g.only c) es b) rfl hact rfl, after_after]
  rfl

/-- The last reply of a call ends it. -/
theorem reply_ends (w' : AuthWorld Connection) {c : AuthCall} {reply : BackendReply}
    (hwaiters : w'.waiters = []) (hreceive : (g.only c).receive c reply = (g', es'))
    (hsent : es'.findSome? AuthEvent.sent? = none) (hcalls : g'.calls = []) :
    ((w'.after (g.only c) es b).act (.reply c.id reply)).runUntilIdle =
      w'.after g' (es ++ es') b := by
  have hact : (w'.after (g.only c) es b).gateway.act (.reply c.id reply) = (g', es') :=
    (AuthGateway.act_reply_only g c reply).trans hreceive
  rw [act_silence (w := w'.after (g.only c) es b) rfl hwaiters hact hsent hcalls, after_after]
  rfl

/-- A logout asks the backend for one, with the token of the session, and leaves an anonymous
session whatever the backend says. -/
theorem start_logout (quiet : w.IsQuiet) {outcome : Except AuthError SessionPhase}
    (settled : w.gateway.probe = .settled outcome) :
    ∃ notice answer, w.start .logout =
      ({ w with started := w.started + 1 } : AuthWorld Connection).after
        w.gateway.clearSession.idle
        [.sent w.started (.logout w.session.token?), .changed w.started .loggedOut,
          .noted w.started notice, .answered w.started answer]
        (w.backend.call (.logout w.session.token?)).2 := by
  have hrun : (w.gateway.only { id := w.started, request := .logout }).run
      { id := w.started, request := .logout } =
      (w.gateway.only { id := w.started, request := .logout, stage := .loggingOut },
        [.sent w.started (.logout w.session.token?)]) := by
    simp [AuthGateway.run, AuthGateway.only, settled, AuthGateway.proceed, AuthGateway.send,
      AuthGateway.moveTo, replaceFirst, session, SessionStore.token?]
  rw [start_sends quiet hrun]
  rcases w.backend.call_logout_cases w.session.token? with hreply | ⟨e, hreply⟩
  · refine ⟨.loggedOut, .loggedOut, ?_⟩
    rw [hreply]
    refine reply_ends (w.calling .logout) quiet.waiters ?_ rfl rfl
    simp [AuthGateway.receive, AuthGateway.answer, AuthGateway.clearSession, AuthGateway.remove,
      AuthGateway.only, AuthGateway.idle, replaceFirst]
  · refine ⟨.logoutFailed e, .error (.api e), ?_⟩
    rw [hreply]
    refine reply_ends (w.calling .logout) quiet.waiters ?_ rfl rfl
    simp [AuthGateway.receive, AuthGateway.answer, AuthGateway.clearSession, AuthGateway.remove,
      AuthGateway.only, AuthGateway.idle, replaceFirst]

/-- A login with credentials asks the backend once, and opens a session exactly if it does not
answer an error. -/
theorem start_login (quiet : w.IsQuiet) {outcome : Except AuthError SessionPhase}
    (settled : w.gateway.probe = .settled outcome) (identity secret : String) :
    (w.start (.login identity secret) =
      ({ w with started := w.started + 1 } : AuthWorld Connection).after w.gateway.idle
        [.answered w.started (.error .missingCredentials)] w.backend) ∨
    ∃ b, (∃ identity' token, w.start (.login identity secret) =
        ({ w with started := w.started + 1 } : AuthWorld Connection).after
          { w.gateway.idle with store := w.gateway.store.setAuthenticated identity' token }
          [.sent w.started (.login (Text.trim identity) secret),
            .noted w.started (.loggedIn identity'), .changed w.started (.loggedIn identity' token),
            .answered w.started (.session (.authenticated identity' token))] b) ∨
      ∃ notice e, w.start (.login identity secret) =
        ({ w with started := w.started + 1 } : AuthWorld Connection).after w.gateway.idle
          [.sent w.started (.login (Text.trim identity) secret), .noted w.started notice,
            .answered w.started (.error e)] b := by
  let c : AuthCall := { id := w.started, request := .login identity secret }
  by_cases hgiven : ((Text.trim identity).isEmpty || secret.isEmpty) = true
  · refine Or.inl ?_
    have hrun : (w.calling c.request).gateway.act (.run w.started) =
        (w.gateway.idle, [.answered w.started (.error .missingCredentials)]) := by
      refine (AuthGateway.act_run_only w.gateway c).trans ?_
      simp only [AuthGateway.run, AuthGateway.only, settled, AuthGateway.proceed, c]
      rw [if_pos hgiven]
      simp [AuthGateway.answer, AuthGateway.remove, AuthGateway.idle, replaceFirst, settled]
    rw [start_quiet quiet]
    exact act_silence (w := w.calling c.request) quiet.pending quiet.waiters hrun rfl rfl
  · refine Or.inr ⟨(w.backend.call (.login (Text.trim identity) secret)).2, ?_⟩
    have hrun : (w.gateway.only c).run c =
        (w.gateway.only { c with stage := .loggingIn (Text.trim identity) },
          [.sent w.started (.login (Text.trim identity) secret)]) := by
      simp only [AuthGateway.run, AuthGateway.only, settled, AuthGateway.proceed, c]
      rw [if_neg hgiven]
      simp [AuthGateway.send, AuthGateway.moveTo, replaceFirst]
    rw [start_sends quiet hrun]
    rcases w.backend.call_login_cases (Text.trim identity) secret with ⟨reply, hreply⟩ | ⟨e, hreply⟩
    · refine Or.inl ⟨reply.identity, reply.token, ?_⟩
      rw [hreply]
      refine reply_ends (w.calling c.request) quiet.waiters ?_ rfl rfl
      simp [AuthGateway.receive, AuthGateway.answer, AuthGateway.remove, AuthGateway.only,
        AuthGateway.idle, replaceFirst, c]
      rfl
    · rw [hreply]
      cases hclient : e.isClientError with
      | true =>
        refine Or.inr ⟨.loginRejected (Text.trim identity) e, .invalidCredentials, ?_⟩
        refine reply_ends (w.calling c.request) quiet.waiters ?_ rfl rfl
        simp [AuthGateway.receive, hclient, AuthGateway.answer, AuthGateway.remove,
          AuthGateway.only, AuthGateway.idle, replaceFirst, c]
      | false =>
        refine Or.inr ⟨.loginFailed e, .api e, ?_⟩
        refine reply_ends (w.calling c.request) quiet.waiters ?_ rfl rfl
        simp [AuthGateway.receive, hclient, AuthGateway.answer, AuthGateway.remove,
          AuthGateway.only, AuthGateway.idle, replaceFirst, c]

/-- The first probe of a gateway asks for the identity, and for a token if there is one. It
opens a session exactly if both come. -/
theorem start_probe (quiet : w.IsQuiet) (unstarted : w.gateway.probe = .unstarted) :
    ∃ b outcome, (∃ identity token, w.start .probe =
        ({ w with started := w.started + 1 } : AuthWorld Connection).after
          (w.gateway.settled (.probedAuthenticated identity token) outcome).idle
          [.sent w.started .probe, .sent w.started .token,
            .noted w.started (.probedAuthenticated identity),
            .changed w.started (.probedAuthenticated identity token),
            .answered w.started (.phase .authenticated)] b) ∨
      ∃ more notice answer, (more = [] ∨ more = [.sent w.started .token]) ∧ w.start .probe =
        ({ w with started := w.started + 1 } : AuthWorld Connection).after
          (w.gateway.settled .probedAnonymous outcome).idle
          (.sent w.started .probe :: more ++ [.noted w.started notice,
            .changed w.started .probedAnonymous, .answered w.started answer]) b := by
  let c : AuthCall := { id := w.started, request := .probe }
  let g : AuthGateway := { w.gateway with probe := .running w.started }
  have hrun : (w.gateway.only c).run c =
      (g.only { c with stage := .probingIdentity }, [.sent w.started .probe]) := by
    simp [AuthGateway.run, AuthGateway.only, unstarted, AuthGateway.runProbe, AuthGateway.send,
      AuthGateway.moveTo, replaceFirst, c, g]
  rw [start_sends quiet hrun]
  rcases w.backend.call_probe_cases with ⟨identity, hreply⟩ | ⟨e, hreply⟩
  · rw [hreply]
    have hidentify : (g.only { c with stage := .probingIdentity }).receive
        { c with stage := .probingIdentity } (.identity identity) =
        (g.only { c with stage := .probingToken identity }, [.sent w.started .token]) := by
      simp [AuthGateway.receive, AuthGateway.send, AuthGateway.moveTo, AuthGateway.only,
        replaceFirst, c]
    rw [reply_asks (w.calling c.request) (c := { c with stage := .probingIdentity }) hidentify]
    rcases Connection.call_token_cases (w.backend.call .probe).2 with ⟨token, htoken⟩ | ⟨e, htoken⟩
    · refine ⟨((w.backend.call .probe).2.call .token).2, .ok .authenticated,
        Or.inl ⟨identity, token, ?_⟩⟩
      rw [htoken]
      refine reply_ends (w.calling c.request) (c := { c with stage := .probingToken identity })
        quiet.waiters ?_ rfl rfl
      exact AuthGateway.settleProbe_only g { c with stage := .probingToken identity } rfl
        (.ok .authenticated) (.probedAuthenticated identity token) (.probedAuthenticated identity)
    · refine ⟨((w.backend.call .probe).2.call .token).2, .error (.initialization e),
        Or.inr ⟨[.sent w.started .token], .probeTokenFailed e, .error (.initialization e), ?_, ?_⟩⟩
      · exact Or.inr rfl
      rw [htoken]
      refine reply_ends (w.calling c.request) (c := { c with stage := .probingToken identity })
        quiet.waiters ?_ rfl rfl
      exact AuthGateway.settleProbe_only g { c with stage := .probingToken identity } rfl
        (.error (.initialization e)) .probedAnonymous (.probeTokenFailed e)
  · rw [hreply]
    obtain ⟨notice, hfailed⟩ := AuthGateway.receive_failed_identity
      (g.only { c with stage := .probingIdentity }) { c with stage := .probingIdentity } rfl e
    refine ⟨(w.backend.call .probe).2, .ok .anonymous,
      Or.inr ⟨[], notice, .phase .anonymous, ?_, ?_⟩⟩
    · exact Or.inl rfl
    refine reply_ends (w.calling c.request) (c := { c with stage := .probingIdentity })
      quiet.waiters (hfailed.trans ?_) rfl rfl
    exact AuthGateway.settleProbe_only g { c with stage := .probingIdentity } rfl
      (.ok .anonymous) .probedAnonymous notice

end

end AuthWorld

end DashboardClient
