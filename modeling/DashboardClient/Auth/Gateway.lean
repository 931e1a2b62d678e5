import DashboardClient.Auth.Backend
import DashboardClient.Auth.Error
import DashboardClient.Log
import DashboardClient.ReplaceFirst
import DashboardClient.Session.Store

/-!
# Auth gateway

The only writer of the session store. The startup probe asks for the identity and then
for a token; its outcome is kept for good. Every operation first waits for the probe, so
a probe that is late never overwrites what a user did. One call runs the probe and the
others queue; when the call that runs it is dropped, the first in the queue runs it anew.

A logout resets the session once its backend call was made, however the call ends. A
login writes only when the backend accepted it. A fresh token is installed only in the
session that it was fetched for.

Every definition here is one atomic step of one call: from one wait to the next. Steps of
any number of calls may come in any order, and a call may be dropped between any two.
-/

namespace DashboardClient

-- ---------------------------------------------------------------------------
-- Calls
-- ---------------------------------------------------------------------------

/-- What a caller asks of the gateway. -/
inductive AuthRequest where
  | probe
  | login (identity secret : String)
  | logout
  | refreshToken
  deriving DecidableEq

/-- What a call answers. -/
inductive AuthAnswer where
  | phase (phase : SessionPhase)
  | session (state : SessionState)
  | token (token : String)
  | loggedOut
  | error (error : AuthError)
  deriving DecidableEq, Repr

/-- What a call waits for. -/
inductive AuthStage where
  | ready
  | queued
  | probingIdentity
  | probingToken (identity : String)
  | loggingIn (identity : String)
  | loggingOut
  | refreshing (epoch : Nat)
  deriving DecidableEq, Repr

/-- A call that has not ended. No two calls have the same number. -/
structure AuthCall where
  id : Nat
  request : AuthRequest
  stage : AuthStage := .ready
  deriving DecidableEq

/-- The startup probe. While it runs, one call holds it. -/
inductive Probe where
  | unstarted
  | running (holder : Nat)
  | settled (outcome : Except AuthError SessionPhase)


-- ---------------------------------------------------------------------------
-- Events
-- ---------------------------------------------------------------------------

/-- A completed transition of the session. -/
inductive SessionChange where
  | probedAnonymous
  | probedAuthenticated (identity token : String)
  | loggedIn (identity token : String)
  | loggedOut
  | tokenReplaced (token : String)
  deriving DecidableEq, Repr

/-- The session after a completed transition. -/
def SessionChange.apply (state : SessionState) : SessionChange → SessionState
  | .probedAnonymous => .anonymous
  | .probedAuthenticated identity token => .authenticated identity token
  | .loggedIn identity token => .authenticated identity token
  | .loggedOut => .anonymous
  | .tokenReplaced token =>
    match state with
    | .authenticated identity _ => .authenticated identity token
    | s => s

/-- What the gateway reports about a call. -/
inductive AuthNotice where
  | noSession
  | probeFailed (error : ApiError)
  | probedAuthenticated (identity : String)
  | probeTokenFailed (error : ApiError)
  | loggedIn (identity : String)
  | loginRejected (identity : String) (error : ApiError)
  | loginFailed (error : ApiError)
  | loggedOut
  | logoutFailed (error : ApiError)
  | tokenOutlived
  deriving DecidableEq, Repr

/-- The line that a notice writes to the log. -/
def AuthNotice.line : AuthNotice → LogLine
  | .noSession => ⟨.info, "session probe: no active session", []⟩
  | .probeFailed e =>
    ⟨.warn, "session probe failed; continuing anonymous",
      [("error", .shown e.message), ("code", .text e.code)]⟩
  | .probedAuthenticated identity =>
    ⟨.info, "session probe: authenticated", [("identity", .shown identity)]⟩
  | .probeTokenFailed e =>
    ⟨.warn, "anti-forgery token fetch failed during startup", [("error", .shown e.message)]⟩
  | .loggedIn identity => ⟨.info, "login succeeded", [("identity", .shown identity)]⟩
  | .loginRejected identity e =>
    ⟨.info, "login rejected", [("identity", .shown identity), ("status", .text e.code)]⟩
  | .loginFailed e => ⟨.warn, "login request failed", [("error", .shown e.message)]⟩
  | .loggedOut => ⟨.info, "logout acknowledged", []⟩
  | .logoutFailed e =>
    ⟨.warn, "logout request failed; local session cleared anyway", [("error", .shown e.message)]⟩
  | .tokenOutlived => ⟨.info, "refreshed token belongs to an ended session; discarding", []⟩

/-- What happens to the call `id`. -/
inductive AuthEvent where
  | sent (id : Nat) (call : BackendCall)
  | changed (id : Nat) (change : SessionChange)
  | noted (id : Nat) (notice : AuthNotice)
  | answered (id : Nat) (answer : AuthAnswer)
  | cancelled (id : Nat)


/-- The backend call that an event is about, and who made it. -/
def AuthEvent.sent? : AuthEvent → Option (Nat × BackendCall)
  | .sent id call => some (id, call)
  | _ => none

/-- What the call `id` answered, if this is the event of it. -/
def AuthEvent.answerOf? (id : Nat) : AuthEvent → Option AuthAnswer
  | .answered id' a => if id' = id then some a else none
  | _ => none


-- ---------------------------------------------------------------------------
-- The gateway
-- ---------------------------------------------------------------------------

/-- The store, the probe, the calls that wait for it in order of arrival, and all calls
that have not ended. -/
structure AuthGateway where
  store : SessionStore := {}
  probe : Probe := .unstarted
  queue : List Nat := []
  calls : List AuthCall := []

namespace AuthGateway

def call? (g : AuthGateway) (id : Nat) : Option AuthCall :=
  g.calls.find? (·.id == id)

/-- The call would do something if it ran. -/
def isReady (g : AuthGateway) (c : AuthCall) : Bool :=
  match c.stage with
  | .ready => true
  | .queued =>
    match g.probe with
    | .settled _ => true
    | .running holder => holder == c.id
    | .unstarted => false
  | _ => false

/-- The call goes on to wait at another stage. -/
def moveTo (g : AuthGateway) (c : AuthCall) (stage : AuthStage) : AuthGateway :=
  { g with calls := replaceFirst (·.id == c.id) (some { c with stage }) g.calls }

/-- The call is over. -/
def remove (g : AuthGateway) (c : AuthCall) : AuthGateway :=
  { g with calls := replaceFirst (·.id == c.id) none g.calls }

/-- The call makes a backend call and waits for the reply. -/
def send (g : AuthGateway) (c : AuthCall) (stage : AuthStage) (call : BackendCall) :
    AuthGateway × List AuthEvent :=
  (g.moveTo c stage, [.sent c.id call])

/-- The call ends with an answer. -/
def answer (g : AuthGateway) (c : AuthCall) (a : AuthAnswer) : AuthGateway × List AuthEvent :=
  (g.remove c, [.answered c.id a])

/-- A call starts. A number that a live call has is not given twice. -/
def start (g : AuthGateway) (id : Nat) (request : AuthRequest) : AuthGateway :=
  if (g.call? id).isSome then g else { g with calls := g.calls ++ [{ id, request }] }

/-- The call runs the startup probe. -/
def runProbe (g : AuthGateway) (c : AuthCall) : AuthGateway × List AuthEvent :=
  { g with probe := .running c.id }.send c .probingIdentity .probe

/-- What a call does once the probe has settled with `outcome`. -/
def proceed (g : AuthGateway) (c : AuthCall) (outcome : Except AuthError SessionPhase) :
    AuthGateway × List AuthEvent :=
  match c.request with
  | .probe =>
    match outcome with
    | .ok phase => g.answer c (.phase phase)
    | .error e => g.answer c (.error e)
  | .login identity secret =>
    let identity := Text.trim identity
    if identity.isEmpty || secret.isEmpty then g.answer c (.error .missingCredentials)
    else g.send c (.loggingIn identity) (.login identity secret)
  | .logout => g.send c .loggingOut (.logout g.store.token?)
  | .refreshToken =>
    if g.store.phase = .authenticated then g.send c (.refreshing g.store.epoch) .token
    else g.answer c (.error .notAuthenticated)

/-- Run a call up to where it next has to wait. -/
def run (g : AuthGateway) (c : AuthCall) : AuthGateway × List AuthEvent :=
  match c.stage, g.probe with
  | .ready, .unstarted => g.runProbe c
  | .ready, .running _ => ({ g.moveTo c .queued with queue := g.queue ++ [c.id] }, [])
  | .ready, .settled outcome => g.proceed c outcome
  | .queued, .settled outcome => g.proceed c outcome
  | .queued, .running holder => if holder = c.id then g.runProbe c else (g, [])
  | _, _ => (g, [])

/-- The probe settles, and the call that ran it goes on. -/
def settleProbe (g : AuthGateway) (c : AuthCall) (outcome : Except AuthError SessionPhase)
    (change : SessionChange) (store : SessionStore) (notice : AuthNotice) :
    AuthGateway × List AuthEvent :=
  let (g', events) :=
    { g with store, probe := .settled outcome, queue := [] }.proceed c outcome
  (g', .noted c.id notice :: .changed c.id change :: events)

/-- The startup probe ends without a session. -/
def settleAnonymous (g : AuthGateway) (c : AuthCall) (outcome : Except AuthError SessionPhase)
    (notice : AuthNotice) : AuthGateway × List AuthEvent :=
  g.settleProbe c outcome .probedAnonymous g.store.resetAnonymous notice

/-- A refreshed token arrives, for the session of `epoch`. -/
def installToken (g : AuthGateway) (c : AuthCall) (epoch : Nat) (token : String) :
    AuthGateway × List AuthEvent :=
  match g.store.replaceToken epoch token with
  | (true, store) =>
    let (g', events) := { g with store }.answer c (.token token)
    (g', .changed c.id (.tokenReplaced token) :: events)
  | (false, _) =>
    let (g', events) := g.answer c (.error .notAuthenticated)
    (g', .noted c.id .tokenOutlived :: events)

/-- The session is reset because of a logout that made its backend call. -/
def clearSession (g : AuthGateway) : AuthGateway :=
  { g with store := g.store.resetAnonymous }

/-- The backend replies to a call. A reply that does not fit what the call waits for
changes nothing. -/
def receive (g : AuthGateway) (c : AuthCall) (reply : BackendReply) :
    AuthGateway × List AuthEvent :=
  match c.stage, reply with
  | .probingIdentity, .identity identity => g.send c (.probingToken identity) .token
  | .probingIdentity, .failed .unauthorized => g.settleAnonymous c (.ok .anonymous) .noSession
  | .probingIdentity, .failed e => g.settleAnonymous c (.ok .anonymous) (.probeFailed e)
  | .probingToken identity, .token token =>
    g.settleProbe c (.ok .authenticated) (.probedAuthenticated identity token)
      (g.store.setAuthenticated identity token) (.probedAuthenticated identity)
  | .probingToken _, .failed e =>
    g.settleAnonymous c (.error (.initialization e)) (.probeTokenFailed e)
  | .loggingIn _, .login session =>
    let store := g.store.setAuthenticated session.identity session.token
    let (g', events) := { g with store }.answer c (.session store.state)
    (g', .noted c.id (.loggedIn session.identity) ::
      .changed c.id (.loggedIn session.identity session.token) :: events)
  | .loggingIn identity, .failed e =>
    if e.isClientError then
      let (g', events) := g.answer c (.error .invalidCredentials)
      (g', .noted c.id (.loginRejected identity e) :: events)
    else
      let (g', events) := g.answer c (.error (.api e))
      (g', .noted c.id (.loginFailed e) :: events)
  | .loggingOut, .loggedOut =>
    let (g', events) := g.clearSession.answer c .loggedOut
    (g', .changed c.id .loggedOut :: .noted c.id .loggedOut :: events)
  | .loggingOut, .failed e =>
    let (g', events) := g.clearSession.answer c (.error (.api e))
    (g', .changed c.id .loggedOut :: .noted c.id (.logoutFailed e) :: events)
  | .refreshing epoch, .token token => g.installToken c epoch token
  | .refreshing _, .failed e => g.answer c (.error (.api e))
  | _, _ => (g, [])

/-- The probe passes to the first call in the queue. -/
def handOver (g : AuthGateway) : AuthGateway :=
  match g.queue with
  | [] => { g with probe := .unstarted }
  | next :: rest => { g with probe := .running next, queue := rest }

/-- The call holds the running probe. -/
def holdsProbe (g : AuthGateway) (c : AuthCall) : Bool :=
  match g.probe with
  | .running holder => holder == c.id
  | _ => false

/-- A call is dropped. It passes the probe on if it holds it, leaves the queue if it
stands there, and resets the session if its backend logout is pending. -/
def cancel (g : AuthGateway) (c : AuthCall) : AuthGateway × List AuthEvent :=
  let gone := g.remove c
  let freed :=
    if gone.holdsProbe c then gone.handOver
    else { gone with queue := gone.queue.filter (· != c.id) }
  match c.stage with
  | .loggingOut => (freed.clearSession, [.changed c.id .loggedOut, .cancelled c.id])
  | _ => (freed, [.cancelled c.id])

end AuthGateway


-- ---------------------------------------------------------------------------
-- Actions
-- ---------------------------------------------------------------------------

/-- One atomic step: a call starts, runs, gets its reply or is dropped. -/
inductive AuthAction where
  | start (id : Nat) (request : AuthRequest)
  | run (id : Nat)
  | reply (id : Nat) (reply : BackendReply)
  | cancel (id : Nat)
  deriving DecidableEq

namespace AuthGateway

/-- Take one step. -/
def act (g : AuthGateway) : AuthAction → AuthGateway × List AuthEvent
  | .start id request => (g.start id request, [])
  | .run id =>
    match g.call? id with
    | some c => g.run c
    | none => (g, [])
  | .reply id reply =>
    match g.call? id with
    | some c => g.receive c reply
    | none => (g, [])
  | .cancel id =>
    match g.call? id with
    | some c => g.cancel c
    | none => (g, [])

/-- Take the steps of a list. -/
def runAll (g : AuthGateway) : List AuthAction → AuthGateway × List AuthEvent
  | [] => (g, [])
  | a :: rest =>
    let (g', events) := g.act a
    let (g'', later) := g'.runAll rest
    (g'', events ++ later)

end AuthGateway

end DashboardClient
