import DashboardClient.Auth.Gateway
import DashboardClient.Proofs.Keyed
import DashboardClient.Proofs.Session.Store

/-!
# What a step of the gateway can do

Each step of the gateway is one of a few transitions: a call arrives, runs the startup probe,
queues behind it, goes on to its own business once the probe has settled, hears from the
backend or is dropped. A transition says what it requires and what becomes of the store, the
probe, the queue and the call. What transitions keep holds after every run, so an invariant
looks at one transition at a time and never at the steps themselves.
-/

namespace DashboardClient

-- ---------------------------------------------------------------------------
-- Changes of the session
-- ---------------------------------------------------------------------------

namespace SessionChange

/-- The change begins a session: it is a login, a logout or the end of the probe. -/
def isBoundary : SessionChange → Bool
  | .tokenReplaced _ => false
  | _ => true

/-- The change is the end of the startup probe. -/
def isProbes : SessionChange → Bool
  | .probedAnonymous => true
  | .probedAuthenticated _ _ => true
  | _ => false

/-- Write the change into the store. -/
def commit (store : SessionStore) : SessionChange → SessionStore
  | .probedAnonymous => store.resetAnonymous
  | .probedAuthenticated identity token => store.setAuthenticated identity token
  | .loggedIn identity token => store.setAuthenticated identity token
  | .loggedOut => store.resetAnonymous
  | .tokenReplaced token => (store.replaceToken store.epoch token).2

@[simp] theorem commit_state (store : SessionStore) (change : SessionChange) :
    (change.commit store).state = change.apply store.state := by
  cases change with
  | tokenReplaced token =>
    cases h : store.state with
    | authenticated identity old =>
      by_cases he : old = token
      · subst he
        simp [commit, SessionStore.replaceToken, h, SessionChange.apply]
      · simp only [commit, SessionStore.replaceToken, h, he, if_true, if_false]
        rfl
    | initializing => simp [commit, SessionStore.replaceToken, h, SessionChange.apply]
    | anonymous => simp [commit, SessionStore.replaceToken, h, SessionChange.apply]
  | _ => rfl

theorem commit_epoch (store : SessionStore) (change : SessionChange) :
    (change.commit store).epoch = store.epoch + if change.isBoundary then 1 else 0 := by
  cases change with
  | tokenReplaced token =>
    simp only [commit, SessionStore.replaceToken, isBoundary]
    split
    · simp only [if_true]
      split <;> rfl
    · rfl
  | _ => rfl

end SessionChange

/-- A token is replaced exactly in the authenticated session of its epoch. -/
theorem SessionStore.replaceToken_cases (store : SessionStore) (epoch : Nat) (token : String) :
    (∃ identity old, store.state = .authenticated identity old ∧ store.epoch = epoch ∧
      store.replaceToken epoch token =
        (true, (SessionChange.tokenReplaced token).commit store)) ∨
    ((store.epoch ≠ epoch ∨ store.phase ≠ .authenticated) ∧
      store.replaceToken epoch token = (false, store)) := by
  by_cases current : store.phase = .authenticated ∧ epoch = store.epoch
  · have taken := (store.replaceToken_eq_true_iff epoch token).2 current
    obtain ⟨authenticated, rfl⟩ := current
    obtain ⟨identity, old, hs⟩ := store.phase_eq_authenticated_iff.1 authenticated
    exact Or.inl ⟨identity, old, hs, rfl, Prod.ext taken rfl⟩
  · refine Or.inr ⟨?_, store.replaceToken_of_past token current⟩
    rw [Classical.not_and_iff_not_or_not] at current
    exact current.symm.imp Ne.symm id

/-- The store after a step that makes a change, or none. -/
def SessionStore.after (store : SessionStore) : Option SessionChange → SessionStore
  | none => store
  | some change => change.commit store


-- ---------------------------------------------------------------------------
-- What a call does once the probe has settled
-- ---------------------------------------------------------------------------

namespace AuthRequest

/-- The call a request makes to the backend on its own behalf, and where it then waits. -/
inductive Sends (store : SessionStore) : AuthRequest → AuthStage → BackendCall → Prop where
  | login {identity secret : String} (given : ¬(Text.trim identity).isEmpty ∧ ¬secret.isEmpty) :
    Sends store (.login identity secret) (.loggingIn (Text.trim identity))
      (.login (Text.trim identity) secret)
  | logout : Sends store .logout .loggingOut (.logout store.token?)
  | refresh (authenticated : store.phase = .authenticated) :
    Sends store .refreshToken (.refreshing store.epoch) .token

/-- The answer of a request that needs no backend call after the probe. -/
inductive Declines (store : SessionStore) (outcome : Except AuthError SessionPhase) :
    AuthRequest → AuthAnswer → Prop where
  | phase {phase : SessionPhase} (known : outcome = .ok phase) :
    Declines store outcome .probe (.phase phase)
  | failed {e : AuthError} (known : outcome = .error e) :
    Declines store outcome .probe (.error e)
  | missing {identity secret : String} (missing : (Text.trim identity).isEmpty ∨ secret.isEmpty) :
    Declines store outcome (.login identity secret) (.error .missingCredentials)
  | notAuthenticated (unauthenticated : store.phase ≠ .authenticated) :
    Declines store outcome .refreshToken (.error .notAuthenticated)

end AuthRequest

namespace AuthGateway

/-- A call goes on after the probe: it answers at once or makes its own backend call. -/
inductive Proceeds (g : AuthGateway) (c : AuthCall) (outcome : Except AuthError SessionPhase) :
    AuthGateway → List AuthEvent → Prop where
  | decline {answer : AuthAnswer} (declines : c.request.Declines g.store outcome answer) :
    Proceeds g c outcome (g.remove c) [.answered c.id answer]
  | send {stage : AuthStage} {call : BackendCall} (sends : c.request.Sends g.store stage call) :
    Proceeds g c outcome (g.moveTo c stage) [.sent c.id call]

theorem proceeds_proceed (g : AuthGateway) (c : AuthCall)
    (outcome : Except AuthError SessionPhase) :
    g.Proceeds c outcome (g.proceed c outcome).1 (g.proceed c outcome).2 := by
  unfold proceed
  cases hr : c.request with
  | probe =>
    cases ho : outcome with
    | ok phase => exact .decline (hr ▸ .phase rfl)
    | error e => exact .decline (hr ▸ .failed rfl)
  | login identity secret =>
    simp only
    split
    · next h => exact .decline (hr ▸ .missing (by simpa using h))
    · next h => exact .send (hr ▸ .login (by simpa using h))
  | logout => exact .send (hr ▸ .logout)
  | refreshToken =>
    simp only
    split
    · next h => exact .send (hr ▸ .refresh h)
    · next h => exact .decline (hr ▸ .notAuthenticated h)

end AuthGateway


-- ---------------------------------------------------------------------------
-- What a reply does
-- ---------------------------------------------------------------------------

/-- The call at this stage runs the startup probe and waits for the backend. -/
def AuthStage.isProbing : AuthStage → Bool
  | .probingIdentity => true
  | .probingToken _ => true
  | _ => false

/-- The call at this stage has asked the backend for its own business. -/
def AuthStage.isOwn : AuthStage → Bool
  | .loggingIn _ => true
  | .loggingOut => true
  | .refreshing _ => true
  | _ => false

/-- The call at this stage waits for such a reply. -/
def AuthStage.hears : AuthStage → BackendReply → Bool
  | .probingIdentity, .identity _ => true
  | .probingToken _, .token _ => true
  | .loggingIn _, .login _ => true
  | .loggingOut, .loggedOut => true
  | .refreshing _, .token _ => true
  | .ready, .failed _ => false
  | .queued, .failed _ => false
  | _, .failed _ => true
  | _, _ => false

/-- What dropping a call at this stage does to the session. -/
def AuthStage.lastChange : AuthStage → Option SessionChange
  | .loggingOut => some .loggedOut
  | _ => none

/-- The replies that end the probe, with its outcome. -/
inductive ProbeEnds : AuthStage → BackendReply → Except AuthError SessionPhase →
    SessionChange → AuthNotice → Prop where
  | refused : ProbeEnds .probingIdentity (.failed .unauthorized) (.ok .anonymous)
    .probedAnonymous .noSession
  | failed {e : ApiError} (other : e ≠ .unauthorized) :
    ProbeEnds .probingIdentity (.failed e) (.ok .anonymous) .probedAnonymous (.probeFailed e)
  | authenticated {identity token : String} :
    ProbeEnds (.probingToken identity) (.token token) (.ok .authenticated)
      (.probedAuthenticated identity token) (.probedAuthenticated identity)
  | tokenFailed {identity : String} {e : ApiError} :
    ProbeEnds (.probingToken identity) (.failed e) (.error (.initialization e))
      .probedAnonymous (.probeTokenFailed e)

theorem ProbeEnds.isProbing {stage : AuthStage} {reply : BackendReply}
    {outcome : Except AuthError SessionPhase} {change : SessionChange} {notice : AuthNotice}
    (h : ProbeEnds stage reply outcome change notice) : stage.isProbing = true := by
  cases h <;> rfl

theorem ProbeEnds.isProbes {stage : AuthStage} {reply : BackendReply}
    {outcome : Except AuthError SessionPhase} {change : SessionChange} {notice : AuthNotice}
    (h : ProbeEnds stage reply outcome change notice) : change.isProbes = true := by
  cases h <;> rfl

/-- The replies that end a call's own business: what changes, what the call answers, and
what happens before it answers. -/
inductive Finishes (store : SessionStore) (id : Nat) : AuthStage → BackendReply →
    Option SessionChange → AuthAnswer → List AuthEvent → Prop where
  | loggedIn {identity : String} {session : Wire.LoginReply} :
    Finishes store id (.loggingIn identity) (.login session)
      (some (.loggedIn session.identity session.token))
      (.session (.authenticated session.identity session.token))
      [.noted id (.loggedIn session.identity),
       .changed id (.loggedIn session.identity session.token)]
  | loginRejected {identity : String} {e : ApiError} (refused : e.isClientError = true) :
    Finishes store id (.loggingIn identity) (.failed e) none (.error .invalidCredentials)
      [.noted id (.loginRejected identity e)]
  | loginFailed {identity : String} {e : ApiError} (broken : e.isClientError = false) :
    Finishes store id (.loggingIn identity) (.failed e) none (.error (.api e))
      [.noted id (.loginFailed e)]
  | loggedOut : Finishes store id .loggingOut .loggedOut (some .loggedOut) .loggedOut
      [.changed id .loggedOut, .noted id .loggedOut]
  | logoutFailed {e : ApiError} :
    Finishes store id .loggingOut (.failed e) (some .loggedOut) (.error (.api e))
      [.changed id .loggedOut, .noted id (.logoutFailed e)]
  | refreshed {identity old token : String}
    (authenticated : store.state = .authenticated identity old) :
    Finishes store id (.refreshing store.epoch) (.token token) (some (.tokenReplaced token))
      (.token token) [.changed id (.tokenReplaced token)]
  | outlived {epoch : Nat} {token : String}
    (ended : store.epoch ≠ epoch ∨ store.phase ≠ .authenticated) :
    Finishes store id (.refreshing epoch) (.token token) none (.error .notAuthenticated)
      [.noted id .tokenOutlived]
  | refreshFailed {epoch : Nat} {e : ApiError} :
    Finishes store id (.refreshing epoch) (.failed e) none (.error (.api e)) []

theorem Finishes.isProbes_eq_false {store : SessionStore} {id : Nat} {stage : AuthStage}
    {reply : BackendReply} {change : SessionChange} {answer : AuthAnswer} {es : List AuthEvent}
    (h : Finishes store id stage reply (some change) answer es) : change.isProbes = false := by
  cases h <;> rfl


-- ---------------------------------------------------------------------------
-- Transitions
-- ---------------------------------------------------------------------------

namespace AuthGateway

/-- The gateway once the probe has settled. -/
def settled (g : AuthGateway) (change : SessionChange)
    (outcome : Except AuthError SessionPhase) : AuthGateway :=
  { g with store := change.commit g.store, probe := .settled outcome, queue := [] }

/-- The gateway after a call that ends with a change, or none. -/
def finished (g : AuthGateway) (c : AuthCall) (change : Option SessionChange) : AuthGateway :=
  { g.remove c with store := g.store.after change }

/-- There is nothing to do in the step: no such call is live, or it waits for something else. -/
def Ignores (g : AuthGateway) : AuthAction → Prop
  | .start id _ => g.call? id ≠ none
  | .run id => ∀ c, g.call? id = some c → g.isReady c = false
  | .reply id reply => ∀ c, g.call? id = some c → c.stage.hears reply = false
  | .cancel id => g.call? id = none

/-- The transitions of the gateway. -/
inductive Step (g : AuthGateway) : AuthAction → AuthGateway → List AuthEvent → Prop where
  | stay {a : AuthAction} (ignored : g.Ignores a) : Step g a g []
  | arrive {id : Nat} {request : AuthRequest} (fresh : g.call? id = none) :
    Step g (.start id request) { g with calls := g.calls ++ [{ id, request }] } []
  | probe {c : AuthCall} (live : g.call? c.id = some c)
    (free : c.stage = .ready ∧ g.probe = .unstarted ∨
      c.stage = .queued ∧ g.probe = .running c.id) :
    Step g (.run c.id) ({ g with probe := .running c.id }.moveTo c .probingIdentity)
      [.sent c.id .probe]
  | enqueue {c : AuthCall} {holder : Nat} (live : g.call? c.id = some c)
    (stage : c.stage = .ready) (running : g.probe = .running holder) :
    Step g (.run c.id) { g.moveTo c .queued with queue := g.queue ++ [c.id] } []
  | proceed {c : AuthCall} {outcome : Except AuthError SessionPhase} {g' : AuthGateway}
    {es : List AuthEvent} (live : g.call? c.id = some c)
    (stage : c.stage = .ready ∨ c.stage = .queued) (ended : g.probe = .settled outcome)
    (proceeds : g.Proceeds c outcome g' es) : Step g (.run c.id) g' es
  | identify {c : AuthCall} {identity : String} (live : g.call? c.id = some c)
    (stage : c.stage = .probingIdentity) :
    Step g (.reply c.id (.identity identity)) (g.moveTo c (.probingToken identity))
      [.sent c.id .token]
  | settle {c : AuthCall} {reply : BackendReply} {outcome : Except AuthError SessionPhase}
    {change : SessionChange} {notice : AuthNotice} {g' : AuthGateway} {es : List AuthEvent}
    (live : g.call? c.id = some c) (ends : ProbeEnds c.stage reply outcome change notice)
    (proceeds : (g.settled change outcome).Proceeds c outcome g' es) :
    Step g (.reply c.id reply) g' (.noted c.id notice :: .changed c.id change :: es)
  | finish {c : AuthCall} {reply : BackendReply} {change : Option SessionChange}
    {answer : AuthAnswer} {es : List AuthEvent} (live : g.call? c.id = some c)
    (finishes : Finishes g.store c.id c.stage reply change answer es) :
    Step g (.reply c.id reply) (g.finished c change) (es ++ [.answered c.id answer])
  | abandon {c : AuthCall} (live : g.call? c.id = some c) (holds : g.probe = .running c.id) :
    Step g (.cancel c.id) (g.finished c c.stage.lastChange).handOver
      ((c.stage.lastChange.map (.changed c.id)).toList ++ [.cancelled c.id])
  | withdraw {c : AuthCall} (live : g.call? c.id = some c) (free : g.probe ≠ .running c.id) :
    Step g (.cancel c.id)
      { g.finished c c.stage.lastChange with queue := g.queue.filter (· != c.id) }
      ((c.stage.lastChange.map (.changed c.id)).toList ++ [.cancelled c.id])

theorem ignores_run {g : AuthGateway} {c : AuthCall} (live : g.call? c.id = some c)
    (waits : g.isReady c = false) : g.Ignores (.run c.id) := by
  intro d hd
  obtain rfl := Option.some.inj (live.symm.trans hd)
  exact waits

theorem ignores_reply {g : AuthGateway} {c : AuthCall} {reply : BackendReply}
    (live : g.call? c.id = some c) (deaf : c.stage.hears reply = false) :
    g.Ignores (.reply c.id reply) := by
  intro d hd
  obtain rfl := Option.some.inj (live.symm.trans hd)
  exact deaf

theorem step_run {g : AuthGateway} {c : AuthCall} (live : g.call? c.id = some c) :
    g.Step (.run c.id) (g.run c).1 (g.run c).2 := by
  unfold run
  cases hs : c.stage with
  | ready =>
    cases hp : g.probe with
    | unstarted => exact .probe live (Or.inl ⟨hs, hp⟩)
    | running holder => exact .enqueue live hs hp
    | settled outcome => exact .proceed live (Or.inl hs) hp (proceeds_proceed g c outcome)
  | queued =>
    cases hp : g.probe with
    | unstarted => exact .stay (ignores_run live (by simp [isReady, hs, hp]))
    | running holder =>
      by_cases hh : holder = c.id
      · simp only [hh, if_true]
        exact .probe live (Or.inr ⟨hs, hh ▸ hp⟩)
      · simp only [hh, if_false]
        exact .stay (ignores_run live (by simp [isReady, hs, hp, hh]))
    | settled outcome => exact .proceed live (Or.inr hs) hp (proceeds_proceed g c outcome)
  | _ => exact .stay (ignores_run live (by simp [isReady, hs]))

theorem step_settleProbe {g : AuthGateway} {c : AuthCall} {reply : BackendReply}
    {outcome : Except AuthError SessionPhase} {change : SessionChange} {notice : AuthNotice}
    (live : g.call? c.id = some c) (ends : ProbeEnds c.stage reply outcome change notice) :
    g.Step (.reply c.id reply)
      (g.settleProbe c outcome change (change.commit g.store) notice).1
      (g.settleProbe c outcome change (change.commit g.store) notice).2 :=
  .settle live ends (proceeds_proceed (g.settled change outcome) c outcome)

theorem step_finish {g : AuthGateway} {c : AuthCall} {stage : AuthStage} {reply : BackendReply}
    {change : Option SessionChange} {answer : AuthAnswer} {es : List AuthEvent}
    (live : g.call? c.id = some c) (at_stage : c.stage = stage)
    (finishes : Finishes g.store c.id stage reply change answer es) :
    g.Step (.reply c.id reply) (g.finished c change) (es ++ [.answered c.id answer]) :=
  .finish live (at_stage ▸ finishes)

theorem step_installToken {g : AuthGateway} {c : AuthCall} {epoch : Nat} {token : String}
    (live : g.call? c.id = some c) (stage : c.stage = .refreshing epoch) :
    g.Step (.reply c.id (.token token)) (g.installToken c epoch token).1
      (g.installToken c epoch token).2 := by
  unfold installToken
  rcases g.store.replaceToken_cases epoch token with
    ⟨identity, old, hauth, rfl, hinstall⟩ | ⟨hover, hinstall⟩
  · rw [hinstall]
    exact step_finish live stage (.refreshed hauth)
  · rw [hinstall]
    exact step_finish live stage (.outlived hover)

theorem step_receive {g : AuthGateway} {c : AuthCall} (reply : BackendReply)
    (live : g.call? c.id = some c) :
    g.Step (.reply c.id reply) (g.receive c reply).1 (g.receive c reply).2 := by
  have hdeaf (deaf : c.stage.hears reply = false) : g.Step (.reply c.id reply) g [] :=
    .stay (ignores_reply live deaf)
  unfold receive
  cases hs : c.stage with
  | probingIdentity =>
    cases reply with
    | identity identity => exact .identify live hs
    | failed e =>
      by_cases he : e = .unauthorized
      · subst he
        exact step_settleProbe live (hs ▸ .refused)
      · have ends : ProbeEnds c.stage (.failed e) (.ok .anonymous) .probedAnonymous
            (.probeFailed e) := hs ▸ .failed he
        cases e with
        | unauthorized => exact absurd rfl he
        | _ => exact step_settleProbe live ends
    | _ => exact hdeaf (by rw [hs]; rfl)
  | probingToken identity =>
    cases reply with
    | token token => exact step_settleProbe live (hs ▸ .authenticated)
    | failed e => exact step_settleProbe live (hs ▸ .tokenFailed)
    | _ => exact hdeaf (by rw [hs]; rfl)
  | loggingIn identity =>
    cases reply with
    | login session => exact step_finish live hs .loggedIn
    | failed e =>
      cases he : e.isClientError with
      | true =>
        simp only [he, if_true]
        exact step_finish live hs (.loginRejected he)
      | false =>
        simp only [he, Bool.false_eq_true, if_false]
        exact step_finish live hs (.loginFailed he)
    | _ => exact hdeaf (by rw [hs]; rfl)
  | loggingOut =>
    cases reply with
    | loggedOut => exact step_finish live hs .loggedOut
    | failed e => exact step_finish live hs .logoutFailed
    | _ => exact hdeaf (by rw [hs]; rfl)
  | refreshing epoch =>
    cases reply with
    | token token => exact step_installToken live hs
    | failed e => exact step_finish live hs .refreshFailed
    | _ => exact hdeaf (by rw [hs]; rfl)
  | _ => cases reply <;> exact hdeaf (by rw [hs]; rfl)

theorem holdsProbe_iff (g : AuthGateway) (c : AuthCall) :
    g.holdsProbe c = true ↔ g.probe = .running c.id := by
  unfold holdsProbe
  split
  · next holder hp => simp [hp]
  · next hp => simpa using hp c.id

theorem handOver_clearSession (g : AuthGateway) :
    g.clearSession.handOver = g.handOver.clearSession := by
  unfold handOver
  cases hq : g.queue with
  | nil => simp [clearSession, hq]
  | cons next rest => simp [clearSession, hq]

theorem step_cancel {g : AuthGateway} {c : AuthCall} (live : g.call? c.id = some c) :
    g.Step (.cancel c.id) (g.cancel c).1 (g.cancel c).2 := by
  have hholds : (g.remove c).holdsProbe c = true ↔ g.probe = .running c.id :=
    holdsProbe_iff (g.remove c) c
  by_cases hp : g.probe = .running c.id
  · have habandon := Step.abandon live hp
    simp only [cancel, hholds, hp, if_true]
    cases hs : c.stage with
    | loggingOut =>
      simp only [hs, AuthStage.lastChange] at habandon
      rw [← handOver_clearSession]
      exact habandon
    | _ =>
      simp only [hs, AuthStage.lastChange] at habandon
      exact habandon
  · have hwithdraw := Step.withdraw live hp
    simp only [cancel, hholds, hp, if_false]
    cases hs : c.stage with
    | _ =>
      simp only [hs, AuthStage.lastChange] at hwithdraw
      exact hwithdraw

theorem step_act (g : AuthGateway) (a : AuthAction) : g.Step a (g.act a).1 (g.act a).2 := by
  cases a with
  | start id request =>
    cases hc : g.call? id with
    | none =>
      simp only [act, start, hc, Option.isSome_none]
      exact .arrive hc
    | some c =>
      simp only [act, start, hc, Option.isSome_some, if_true]
      exact .stay (by simp [Ignores, hc])
  | run id =>
    cases hc : g.call? id with
    | none =>
      simp only [act, hc]
      exact .stay (by simp [Ignores, hc])
    | some c =>
      obtain rfl : c.id = id := key_of_find? hc
      simp only [act, hc]
      exact step_run hc
  | reply id reply =>
    cases hc : g.call? id with
    | none =>
      simp only [act, hc]
      exact .stay (by simp [Ignores, hc])
    | some c =>
      obtain rfl : c.id = id := key_of_find? hc
      simp only [act, hc]
      exact step_receive reply hc
  | cancel id =>
    cases hc : g.call? id with
    | none =>
      simp only [act, hc]
      exact .stay hc
    | some c =>
      obtain rfl : c.id = id := key_of_find? hc
      simp only [act, hc]
      exact step_cancel hc

end AuthGateway

end DashboardClient
