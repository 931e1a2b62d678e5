import DashboardClient.Proofs.Auth.Served
import DashboardClient.Watcher
import Mathlib.Data.List.Basic

/-!
# The life cycle of the watcher

A run opens with the startup probe and, if that finds no session and there are
credentials, with one login. It polls only in a session that was opened so, it polls the
configured path alone, and when it is interrupted it signs out once, with the token of that
session. A run that never polls asks for no logout and says by its exit code whether the
configuration was the reason.
-/

namespace DashboardClient

-- ---------------------------------------------------------------------------
-- Events of a run
-- ---------------------------------------------------------------------------

/-- The credentials that a login is asked for with. -/
def BackendCall.credentials? : BackendCall → Option (String × String)
  | .login identity secret => some (identity, secret)
  | _ => none

/-- What has happened in the gateway, among the events of a run. -/
def authIn (events : List WatcherEvent) : List AuthEvent :=
  events.filterMap fun
    | .auth e => some e
    | _ => none

/-- The changes of the session among the events. -/
def sessionChanges (events : List WatcherEvent) : List SessionChange :=
  changesIn (authIn events)

/-- The backend calls among the events. -/
def callsIn (events : List WatcherEvent) : List BackendCall :=
  (authIn events).filterMap fun e => e.sent?.map (·.2)

/-- The credentials of the logins that the backend was asked for. -/
def loginsIn (events : List WatcherEvent) : List (String × String) :=
  (callsIn events).filterMap (·.credentials?)

/-- The tokens of the logouts that the backend was asked for. -/
def logoutsIn (events : List WatcherEvent) : List (Option String) :=
  (callsIn events).filterMap (·.logoutToken?)

section Events

variable (before after : List WatcherEvent)

@[simp] theorem authIn_append : authIn (before ++ after) = authIn before ++ authIn after :=
  List.filterMap_append

@[simp] theorem sessionChanges_append :
    sessionChanges (before ++ after) = sessionChanges before ++ sessionChanges after := by
  simp [sessionChanges]

@[simp] theorem loginsIn_append :
    loginsIn (before ++ after) = loginsIn before ++ loginsIn after := by
  simp [loginsIn, callsIn]

@[simp] theorem logoutsIn_append :
    logoutsIn (before ++ after) = logoutsIn before ++ logoutsIn after := by
  simp [logoutsIn, callsIn]

@[simp] theorem loginsIn_login (id : Nat) (identity secret : String) :
    loginsIn (.auth (.sent id (.login identity secret)) :: after) =
      (identity, secret) :: loginsIn after :=
  rfl

@[simp] theorem logoutsIn_logout (id : Nat) (token : Option String) :
    logoutsIn (.auth (.sent id (.logout token)) :: after) = token :: logoutsIn after :=
  rfl

end Events

/-- The event is one of the gateway or of the log, and no call for a login or a logout. -/
def WatcherEvent.isPlain : WatcherEvent → Bool
  | .auth (.sent _ call) => call.credentials?.isNone && call.logoutToken?.isNone
  | .auth _ => true
  | .logged _ => true
  | _ => false

/-- The event is one of polling the path. -/
def WatcherEvent.isPolling (path : String) : WatcherEvent → Prop
  | .logged _ => True
  | .retrieving path' => path' = path
  | .retrieved path' _ => path' = path
  | _ => False

/-- The event has nothing to do with polling. -/
def WatcherEvent.isIdle : WatcherEvent → Bool
  | .auth _ => true
  | .logged _ => true
  | _ => false

/-- The events are plain, and those are the changes among them. -/
structure Plain (events : List WatcherEvent) (changes : List SessionChange) : Prop where
  plain : ∀ e ∈ events, e.isPlain = true
  changes : sessionChanges events = changes

namespace Plain

variable {events events' : List WatcherEvent} {changes changes' : List SessionChange}

theorem append (h : Plain events changes) (h' : Plain events' changes') :
    Plain (events ++ events') (changes ++ changes') where
  plain := List.forall_mem_append.2 ⟨h.plain, h'.plain⟩
  changes := by rw [sessionChanges_append, h.changes, h'.changes]

theorem log (h : Plain events changes) (line : LogLine) :
    Plain (events ++ [.logged line]) changes where
  plain := List.forall_mem_append.2 ⟨h.plain, by simp [WatcherEvent.isPlain]⟩
  changes := by rw [sessionChanges_append, h.changes]; exact List.append_nil _

theorem idle (h : Plain events changes) : ∀ e ∈ events, e.isIdle = true := by
  intro e he
  have hplain := h.plain e he
  cases e with
  | auth e' => rfl
  | logged line => rfl
  | _ => cases hplain

theorem calls_eq_nil {α : Type} {f : BackendCall → Option α} (h : Plain events changes)
    (hf : ∀ call, call.credentials? = none → call.logoutToken? = none → f call = none) :
    (callsIn events).filterMap f = [] := by
  rw [List.filterMap_eq_nil_iff]
  intro call hcall
  obtain ⟨e, he, hsent⟩ := List.mem_filterMap.1 hcall
  obtain ⟨event, hevent, hauth⟩ := List.mem_filterMap.1 he
  have hplain := h.plain event hevent
  cases event with
  | auth e' =>
    obtain rfl := Option.some.inj hauth
    cases e' with
    | sent id call' =>
      obtain rfl := Option.some.inj hsent
      simp only [WatcherEvent.isPlain, Bool.and_eq_true, Option.isNone_iff_eq_none] at hplain
      exact hf _ hplain.1 hplain.2
    | _ => cases hsent
  | _ => cases hauth

theorem loginsIn_eq (h : Plain events changes) : loginsIn events = [] :=
  h.calls_eq_nil fun _ hlogin _ => hlogin

theorem logoutsIn_eq (h : Plain events changes) : logoutsIn events = [] :=
  h.calls_eq_nil fun _ _ hlogout => hlogout

end Plain

/-- What is polled changes no session and asks for no login and no logout. -/
theorem authIn_of_isPolling {path : String} {events : List WatcherEvent}
    (h : ∀ e ∈ events, e.isPolling path) : authIn events = [] := by
  rw [authIn, List.filterMap_eq_nil_iff]
  intro e he
  cases e with
  | auth e' => exact (h _ he).elim
  | _ => rfl

theorem login_notMem {events : List WatcherEvent} (h : loginsIn events = []) (id : Nat)
    (identity secret : String) : .auth (.sent id (.login identity secret)) ∉ events := by
  intro hmem
  obtain ⟨before, after, rfl⟩ := List.append_of_mem hmem
  simp at h


-- ---------------------------------------------------------------------------
-- How a run opens
-- ---------------------------------------------------------------------------

/-- The events of the startup probe: it has found a session, or there is none. -/
inductive Probed : List WatcherEvent → SessionState → Prop where
  | found {events : List WatcherEvent} {identity token : String}
    (plain : Plain events [.probedAuthenticated identity token]) :
    Probed events (.authenticated identity token)
  | anonymous {events : List WatcherEvent} (plain : Plain events [.probedAnonymous]) :
    Probed events .anonymous

/-- The events up to where the watcher knows its session: those of the probe, and if it has
found none, those of a login with the credentials. -/
inductive Opening (config : Config) : List WatcherEvent → SessionState → Prop where
  | probed {events : List WatcherEvent} {state : SessionState} (probed : Probed events state) :
    Opening config events state
  | signedIn {before after : List WatcherEvent} {id : Nat} {credentials : Credentials}
    {identity token : String} (configured : config.credentials = some credentials)
    (probed : Plain before [.probedAnonymous]) (accepted : Plain after [.loggedIn identity token]) :
    Opening config (before ++ .auth (.sent id
      (.login (Text.trim credentials.identity) credentials.secret)) :: after)
      (.authenticated identity token)
  | refused {before after : List WatcherEvent} {id : Nat} {credentials : Credentials}
    (configured : config.credentials = some credentials)
    (probed : Plain before [.probedAnonymous]) (refused : Plain after []) :
    Opening config (before ++ .auth (.sent id
      (.login (Text.trim credentials.identity) credentials.secret)) :: after) .anonymous

theorem Probed.log {events : List WatcherEvent} {state : SessionState} (h : Probed events state)
    (line : LogLine) : Probed (events ++ [.logged line]) state := by
  cases h with
  | found plain => exact .found (plain.log line)
  | anonymous plain => exact .anonymous (plain.log line)

/-- A line in the log does not matter. -/
theorem Opening.log {config : Config} {events : List WatcherEvent} {state : SessionState}
    (h : Opening config events state) (line : LogLine) :
    Opening config (events ++ [.logged line]) state := by
  cases h with
  | probed probed => exact .probed (probed.log line)
  | signedIn configured probed accepted =>
    rw [List.append_assoc]
    exact .signedIn configured probed (accepted.log line)
  | refused configured probed refused =>
    rw [List.append_assoc]
    exact .refused configured probed (refused.log line)

namespace Opening

variable {config : Config} {opened : List WatcherEvent} {state : SessionState}

/-- Nothing of polling has happened yet. -/
theorem idle (h : Opening config opened state) : ∀ e ∈ opened, e.isIdle = true := by
  cases h with
  | probed probed =>
    cases probed with
    | found plain => exact plain.idle
    | anonymous plain => exact plain.idle
  | signedIn _ probed accepted =>
    exact List.forall_mem_append.2 ⟨probed.idle, List.forall_mem_cons.2 ⟨rfl, accepted.idle⟩⟩
  | refused _ probed refused =>
    exact List.forall_mem_append.2 ⟨probed.idle, List.forall_mem_cons.2 ⟨rfl, refused.idle⟩⟩

/-- Nobody has signed out yet. -/
theorem logoutsIn_eq (h : Opening config opened state) : logoutsIn opened = [] := by
  cases h with
  | probed probed =>
    cases probed with
    | found plain => exact plain.logoutsIn_eq
    | anonymous plain => exact plain.logoutsIn_eq
  | signedIn _ probed accepted =>
    rw [logoutsIn_append, probed.logoutsIn_eq]
    exact accepted.logoutsIn_eq
  | refused _ probed refused =>
    rw [logoutsIn_append, probed.logoutsIn_eq]
    exact refused.logoutsIn_eq

/-- A session is one that the probe has found, or the only login has opened after a probe
that found none. -/
theorem opened_by {identity token : String}
    (h : Opening config opened (.authenticated identity token)) :
    sessionChanges opened = [.probedAuthenticated identity token] ∧ loginsIn opened = [] ∨
      sessionChanges opened = [.probedAnonymous, .loggedIn identity token] ∧
        ∃ credentials, config.credentials = some credentials ∧
          loginsIn opened = [(Text.trim credentials.identity, credentials.secret)] := by
  cases h with
  | probed probed =>
    cases probed with
    | found plain => exact Or.inl ⟨plain.changes, plain.loginsIn_eq⟩
  | signedIn configured probed accepted =>
    refine Or.inr ⟨?_, _, configured, ?_⟩
    · rw [sessionChanges_append, probed.changes]
      exact congrArg _ accepted.changes
    · rw [loginsIn_append, probed.loginsIn_eq, loginsIn_login, accepted.loginsIn_eq]
      rfl

/-- The only login is that with the credentials, after a probe that found no session. -/
theorem login_once (h : Opening config opened state) {tail before after : List WatcherEvent}
    (htail : loginsIn tail = []) {id : Nat} {identity secret : String}
    (hsplit : opened ++ tail = before ++ .auth (.sent id (.login identity secret)) :: after) :
    sessionChanges before = [.probedAnonymous] ∧ loginsIn before = [] ∧ loginsIn after = [] := by
  have hsent : ∀ {first second : List WatcherEvent} {id' : Nat} {identity' secret' : String},
      opened = first ++ .auth (.sent id' (.login identity' secret')) :: second →
      Plain first [.probedAnonymous] → loginsIn second = [] →
      sessionChanges before = [.probedAnonymous] ∧ loginsIn before = [] ∧ loginsIn after = [] := by
    intro first second id' identity' secret' hopened hfirst hsecond
    have hrest : loginsIn (second ++ tail) = [] := by rw [loginsIn_append, hsecond, htail]; rfl
    rw [hopened, List.append_assoc, List.cons_append] at hsplit
    obtain ⟨rfl, -, rfl⟩ := (List.append_cons_inj_of_notMem
      (login_notMem hfirst.loginsIn_eq id identity secret)
      (login_notMem hrest id identity secret)).1 hsplit
    exact ⟨hfirst.changes, hfirst.loginsIn_eq, hrest⟩
  cases h with
  | probed probed =>
    have hnone : loginsIn opened = [] := by
      cases probed with
      | found plain => exact plain.loginsIn_eq
      | anonymous plain => exact plain.loginsIn_eq
    have hmem : .auth (.sent id (.login identity secret)) ∈ opened ++ tail := by
      rw [hsplit]
      exact List.mem_append_cons_self
    rw [List.mem_append] at hmem
    rcases hmem with hmem | hmem
    · exact absurd hmem (login_notMem hnone id identity secret)
    · exact absurd hmem (login_notMem htail id identity secret)
  | signedIn _ probed accepted => exact hsent rfl probed accepted.loginsIn_eq
  | refused _ probed refused => exact hsent rfl probed refused.loginsIn_eq

end Opening

namespace Watcher

variable {w : Watcher}

/-- The watcher once the gateway has served a request, which took it to a world and was
reported in events. -/
def asked (w : Watcher) (world : AuthWorld Connection) (es : List AuthEvent) : Watcher :=
  { w with world, events := w.events ++ es.map .auth }

/-- What a request that is served at once answers, and what it adds to the events. -/
theorem ask_of_start {request : AuthRequest} {g : AuthGateway} (es : List AuthEvent)
    {answer : AuthAnswer} {b : Connection}
    (h : w.world.start request =
      ({ w.world with started := w.world.started + 1 } : AuthWorld Connection).after g
        (es ++ [.answered w.world.started answer]) b) :
    w.ask request =
      (some answer, w.asked (w.world.start request) (es ++ [.answered w.world.started answer])) := by
  have hanswer : (w.world.start request).answer? w.world.started = some answer := by
    simp [h, AuthWorld.answer?, AuthWorld.after, AuthEvent.answerOf?]
  have hhistory : (w.world.start request).history =
      ((es ++ [AuthEvent.answered w.world.started answer]).map fun e =>
        (w.world.now, e)).reverse ++ w.world.history := by
    rw [h]
    rfl
  have hfresh : ((w.world.start request).history.take
      ((w.world.start request).history.length - w.world.history.length)).reverse.map
      (fun e => WatcherEvent.auth e.2) =
      (es ++ [AuthEvent.answered w.world.started answer]).map WatcherEvent.auth := by
    rw [hhistory, List.length_append, Nat.add_sub_cancel, List.take_left, List.reverse_reverse,
      List.map_map]
    rfl
  simp only [ask, hanswer, hfresh, asked]

/-- The line about the probe changes nothing else. -/
theorem probe_of_ask {answer : Option AuthAnswer} {w' : Watcher} (h : w.ask .probe = (answer, w')) :
    w.probe = w' ∨ ∃ line, w.probe = w'.note (.logged line) := by
  unfold probe
  split
  · next heq => exact Or.inr ⟨_, by rw [h] at heq; obtain ⟨-, rfl⟩ := Prod.mk.inj heq; rfl⟩
  · next heq => exact Or.inr ⟨_, by rw [h] at heq; obtain ⟨-, rfl⟩ := Prod.mk.inj heq; rfl⟩
  · next heq => exact Or.inl (by rw [h] at heq; exact (Prod.mk.inj heq).2.symm)

/-- Nothing goes on, the probe is over, and events and session are as `P` says. -/
structure Stands (w : Watcher) (P : List WatcherEvent → SessionState → Prop) : Prop where
  holds : P w.events w.world.session
  quiet : w.world.IsQuiet
  settled : w.world.gateway.IsSettled

/-- What a request that is served at once leaves. -/
theorem stands_asked {P : List WatcherEvent → SessionState → Prop} (quiet : w.world.IsQuiet)
    {request : AuthRequest} {g : AuthGateway} {es : List AuthEvent} {b : Connection}
    (hstart : w.world.start request =
      ({ w.world with started := w.world.started + 1 } : AuthWorld Connection).after g es b)
    (hcalls : g.calls = []) (settled : g.IsSettled)
    (holds : P (w.events ++ es.map .auth) g.store.state) :
    (w.asked (w.world.start request) es).Stands P := by
  rw [hstart]
  exact ⟨holds, AuthWorld.isQuiet_after quiet.waiters hcalls, settled⟩

/-- Events of the gateway without a login or a logout are plain. -/
theorem plain_auth {es : List AuthEvent} {changes : List SessionChange}
    (hplain : ∀ e ∈ es, (WatcherEvent.auth e).isPlain = true) (hchanges : changesIn es = changes) :
    Plain (es.map .auth) changes where
  plain := List.forall_mem_map.2 hplain
  changes := by
    have hauth : authIn (es.map .auth) = es := by
      simp [authIn, List.filterMap_map]
    rw [sessionChanges, hauth, hchanges]

/-- The probe settles the session. -/
theorem stands_probe (quiet : w.world.IsQuiet) (unstarted : w.world.gateway.probe = .unstarted)
    (hnew : w.events = []) : w.probe.Stands Probed ∧ w.probe.config = w.config := by
  have hask : ∃ answer w', w.ask .probe = (some answer, w') ∧ w'.Stands Probed ∧
      w'.config = w.config := by
    obtain ⟨b, outcome, ⟨identity, token, hstart⟩ | ⟨more, notice, answer, hmore, hstart⟩⟩ :=
      AuthWorld.start_probe quiet unstarted
    · refine ⟨_, _, ask_of_start [_, _, _, _] hstart, ?_, rfl⟩
      refine stands_asked quiet hstart rfl ⟨outcome, rfl⟩ (.found ?_)
      rw [hnew]
      exact plain_auth (by simp [WatcherEvent.isPlain]; decide) rfl
    · rcases hmore with rfl | rfl
      · refine ⟨_, _, ask_of_start [_, _, _] hstart, ?_, rfl⟩
        refine stands_asked quiet hstart rfl ⟨outcome, rfl⟩ (.anonymous ?_)
        rw [hnew]
        exact plain_auth (by simp [WatcherEvent.isPlain]; decide) rfl
      · refine ⟨_, _, ask_of_start [_, _, _, _] hstart, ?_, rfl⟩
        refine stands_asked quiet hstart rfl ⟨outcome, rfl⟩ (.anonymous ?_)
        rw [hnew]
        exact plain_auth (by simp [WatcherEvent.isPlain]; decide) rfl
  obtain ⟨answer, w', hask, hstands, hconfig⟩ := hask
  rcases probe_of_ask hask with h | ⟨line, h⟩
  · rw [h]
    exact ⟨hstands, hconfig⟩
  · rw [h]
    exact ⟨⟨hstands.holds.log line, hstands.quiet, hstands.settled⟩, hconfig⟩

/-- A login with the configured credentials, where there was no session: it answers an error,
or it has opened a session. -/
theorem stands_login (quiet : w.world.IsQuiet) (settled : w.world.gateway.IsSettled)
    (anonymous : w.world.session = .anonymous) {credentials : Credentials}
    (configured : w.config.credentials = some credentials)
    (probed : Plain w.events [.probedAnonymous]) :
    ∃ answer w', w.ask (.login credentials.identity credentials.secret) = (some answer, w') ∧
      w'.Stands (Opening w.config) ∧ w'.config = w.config ∧
      ((∃ e, answer = .error e) ∧ w'.world.session = .anonymous ∨
        (∀ e, answer ≠ .error e) ∧ ∃ identity token,
          w'.world.session = .authenticated identity token) := by
  obtain ⟨outcome, hprobe⟩ := settled
  rcases AuthWorld.start_login quiet hprobe credentials.identity credentials.secret with
    hstart | ⟨b, ⟨identity, token, hstart⟩ | ⟨notice, e, hstart⟩⟩
  · refine ⟨_, _, ask_of_start [] hstart, ?_, rfl, Or.inl ⟨⟨_, rfl⟩, ?_⟩⟩
    · refine stands_asked quiet hstart rfl ⟨outcome, hprobe⟩ ?_
      have hstate : w.world.gateway.idle.store.state = .anonymous := anonymous
      rw [hstate]
      have answered : Plain ([.answered w.world.started (.error .missingCredentials)].map .auth) [] :=
        plain_auth (by simp [WatcherEvent.isPlain]) rfl
      exact .probed (.anonymous (probed.append answered))
    · show AuthWorld.session (w.world.start _) = _
      rw [hstart]
      exact anonymous
  · refine ⟨_, _, ask_of_start [_, _, _] hstart, ?_, rfl, Or.inr ⟨nofun, identity, token, ?_⟩⟩
    · refine stands_asked quiet hstart rfl ⟨outcome, hprobe⟩ ?_
      have accepted : Plain ([.noted w.world.started (.loggedIn identity),
          .changed w.world.started (.loggedIn identity token),
          .answered w.world.started (.session (.authenticated identity token))].map .auth)
          [.loggedIn identity token] :=
        plain_auth (by simp [WatcherEvent.isPlain]) rfl
      exact .signedIn configured probed accepted
    · show AuthWorld.session (w.world.start _) = _
      rw [hstart]
      rfl
  · refine ⟨_, _, ask_of_start [_, _] hstart, ?_, rfl, Or.inl ⟨⟨_, rfl⟩, ?_⟩⟩
    · refine stands_asked quiet hstart rfl ⟨outcome, hprobe⟩ ?_
      have hstate : w.world.gateway.idle.store.state = .anonymous := anonymous
      rw [hstate]
      have refused : Plain ([.noted w.world.started notice,
          .answered w.world.started (.error e)].map .auth) [] :=
        plain_auth (by simp [WatcherEvent.isPlain]) rfl
      exact .refused configured probed refused
    · show AuthWorld.session (w.world.start _) = _
      rw [hstart]
      exact anonymous


-- ---------------------------------------------------------------------------
-- How a run polls
-- ---------------------------------------------------------------------------

/-- The watcher has done nothing but poll its path: its session and the gateway are as they
were. -/
structure Polls (w w' : Watcher) : Prop where
  config : w'.config = w.config
  gateway : w'.world.gateway = w.world.gateway
  pending : w'.world.pending = w.world.pending
  waiters : w'.world.waiters = w.world.waiters
  events : ∃ polled, w'.events = w.events ++ polled ∧ ∀ e ∈ polled, e.isPolling w.config.watchPath

namespace Polls

variable {w' w'' : Watcher}

theorem refl (w : Watcher) : w.Polls w :=
  ⟨rfl, rfl, rfl, rfl, [], (List.append_nil _).symm, List.forall_mem_nil _⟩

theorem trans (h : w.Polls w') (h' : w'.Polls w'') : w.Polls w'' where
  config := h'.config.trans h.config
  gateway := h'.gateway.trans h.gateway
  pending := h'.pending.trans h.pending
  waiters := h'.waiters.trans h.waiters
  events := by
    obtain ⟨polled, hevents, hpolled⟩ := h.events
    obtain ⟨polled', hevents', hpolled'⟩ := h'.events
    refine ⟨polled ++ polled', ?_, ?_⟩
    · rw [hevents', hevents, List.append_assoc]
    · rw [h.config] at hpolled'
      exact List.forall_mem_append.2 ⟨hpolled, hpolled'⟩

theorem note (w : Watcher) {e : WatcherEvent} (h : e.isPolling w.config.watchPath) :
    w.Polls (w.note e) :=
  ⟨rfl, rfl, rfl, rfl, [e], rfl, List.forall_mem_singleton.2 h⟩

theorem world (w : Watcher) (backend : Connection) (now : Nat) :
    w.Polls { w with world := { w.world with backend, now } } :=
  ⟨rfl, rfl, rfl, rfl, [], (List.append_nil _).symm, List.forall_mem_nil _⟩

theorem report (w : Watcher) (s : Snapshot Json.Value) : w.Polls (w.report s) := by
  unfold Watcher.report
  split
  · exact note w trivial
  · exact note w trivial
  · exact refl w

theorem advance (v : Watching) (s : Subscription Json.Value) :
    v.watcher.Polls (v.advance s).watcher := by
  unfold Watching.advance
  split
  · exact refl _
  · exact (world v.watcher _ _).trans (note _ rfl)

theorem step (v : Watching) (step : WatchStep) : v.watcher.Polls (v.step step).watcher := by
  cases step with
  | pass nanos => exact world v.watcher _ _
  | turn => exact advance v _
  | settle =>
    simp only [Watching.step]
    split
    · exact refl _
    · next outcome _ =>
      let e : WatcherEvent := .retrieved v.watcher.config.watchPath outcome
      exact (note v.watcher (e := e) rfl).trans
        (advance { v with watcher := v.watcher.note e, underway := none } _)
  | look =>
    simp only [Watching.step, Watching.look]
    split
    · exact report v.watcher _
    · exact refl _

/-- However long it polls, it does nothing else. -/
theorem poll (w : Watcher) (engine : PollingEngine) (steps : List WatchStep) :
    w.Polls (w.poll engine steps) := by
  have hsteps : ∀ v : Watching, v.watcher.Polls (steps.foldl Watching.step v).watcher := by
    induction steps with
    | nil => exact fun v => refl v.watcher
    | cons first rest ih => exact fun v => (step v first).trans (ih (v.step first))
  exact hsteps (Watching.start w engine)

end Polls

end Watcher


-- ---------------------------------------------------------------------------
-- A whole run
-- ---------------------------------------------------------------------------

/-- A run with a configuration and a client: it never polled for want of a session, or it
polled in the session that it opened, and signed out of that. -/
inductive WatcherRun.Course (config : Config) : WatcherRun → Prop where
  | unwatched {events : List WatcherEvent} {world : AuthWorld Connection}
    (opening : Opening config events .anonymous) :
    Course config ⟨.noSession, events, some world⟩
  | watched {opened polled closing : List WatcherEvent} {identity token : String} {id : Nat}
    {world : AuthWorld Connection} (opening : Opening config opened (.authenticated identity token))
    (polling : ∀ e ∈ polled, e.isPolling config.watchPath) (closed : Plain closing [.loggedOut])
    (anonymous : world.session = .anonymous) :
    Course config ⟨.interrupted, opened ++ .pollingStarted (.authenticated identity token) ::
      (polled ++ .auth (.sent id (.logout (some token))) :: closing), some world⟩

namespace Watcher

variable {w : Watcher}

/-- Signing out asks for one logout, with the token of the session, and leaves none. -/
theorem signOut_of_authenticated (quiet : w.world.IsQuiet) (settled : w.world.gateway.IsSettled)
    {identity token : String} (hstate : w.world.session = .authenticated identity token) :
    ∃ id closing world,
      w.signOut = ⟨.interrupted, w.events ++ .auth (.sent id (.logout (some token))) :: closing,
        some world⟩ ∧ Plain closing [.loggedOut] ∧ world.session = .anonymous := by
  obtain ⟨outcome, hprobe⟩ := settled
  obtain ⟨notice, answer, hstart⟩ := AuthWorld.start_logout quiet hprobe
  have htoken : w.world.session.token? = some token := by rw [hstate]; rfl
  rw [htoken] at hstart
  let closing : List WatcherEvent := [.changed w.world.started .loggedOut,
    .noted w.world.started notice, .answered w.world.started answer].map .auth
  have hclosing : Plain closing [.loggedOut] := plain_auth (by simp [WatcherEvent.isPlain]) rfl
  have hended : (w.world.start .logout).session = .anonymous := by rw [hstart]; rfl
  have hask := ask_of_start [_, _, _] hstart
  unfold signOut
  split
  · next e w' heq =>
    obtain ⟨-, rfl⟩ := Prod.mk.inj (hask.symm.trans heq)
    let line : LogLine :=
      ⟨.warn, "remote logout failed; local session cleared", [("error", .shown e.message)]⟩
    refine ⟨w.world.started, closing ++ [.logged line], w.world.start .logout, ?_,
      hclosing.log line, hended⟩
    simp only [finish, Watcher.log, note, asked, List.append_assoc]
    rfl
  · next heq =>
    obtain ⟨-, rfl⟩ := Prod.mk.inj (hask.symm.trans heq)
    exact ⟨w.world.started, closing, w.world.start .logout, rfl, hclosing, hended⟩

/-- Once it has polled, the watcher signs out of the session that it polled in. -/
theorem signOut_of_polls (w₁ : Watcher) {w₂ : Watcher} (polls : w₁.Polls w₂)
    (quiet : w₁.world.IsQuiet) (settled : w₁.world.gateway.IsSettled) {identity token : String}
    (hstate : w₁.world.session = .authenticated identity token) {opened : List WatcherEvent}
    (hopened : w₁.events = opened ++ [.pollingStarted (.authenticated identity token)])
    (opening : Opening w₁.config opened (.authenticated identity token))
    (line : LogLine) : WatcherRun.Course w₁.config (w₂.note (.logged line)).signOut := by
  obtain ⟨polled, hevents, hpolled⟩ := polls.events
  have hquiet : w₂.world.IsQuiet := by
    refine ⟨polls.pending.trans quiet.pending, polls.waiters.trans quiet.waiters, ?_⟩
    rw [polls.gateway]
    exact quiet.calls
  have hsettled : w₂.world.gateway.IsSettled := by
    rw [polls.gateway]
    exact settled
  have hsession : w₂.world.session = .authenticated identity token := by
    rw [AuthWorld.session, polls.gateway]
    exact hstate
  obtain ⟨id, closing, world, hsignOut, hclosed, hanonymous⟩ :=
    signOut_of_authenticated (w := w₂.note (.logged line)) hquiet hsettled hsession
  have hall : (w₂.note (.logged line)).events =
      opened ++ .pollingStarted (.authenticated identity token) :: (polled ++ [.logged line]) := by
    simp [note, hevents, hopened]
  rw [hsignOut, hall, List.append_assoc, List.cons_append]
  refine .watched opening ?_ hclosed hanonymous
  exact List.forall_mem_append.2 ⟨hpolled, by simp [WatcherEvent.isPolling]⟩

/-- With a session, the watcher polls until it is interrupted and signs out. -/
theorem watch_course (h : w.Stands (Opening w.config)) {identity token : String}
    (hstate : w.world.session = .authenticated identity token) {engine : PollingEngine}
    (hengine : PollingEngine.ofConfig w.config = .ok engine) (steps : List WatchStep) :
    WatcherRun.Course w.config (w.watch steps) := by
  have hopened : Opening w.config w.events (.authenticated identity token) := by
    rw [← hstate]
    exact h.holds
  simp only [watch, hengine, hstate]
  refine signOut_of_polls ((w.log _ _ _).note (.pollingStarted _)) (Polls.poll _ engine steps)
    h.quiet h.settled hstate rfl ?_ _
  exact hopened.log _

/-- A session that the probe has found is polled in; otherwise the credentials have to open
one. -/
theorem enter_course (h : w.Stands Probed) {engine : PollingEngine}
    (hengine : PollingEngine.ofConfig w.config = .ok engine) (steps : List WatchStep) :
    WatcherRun.Course w.config (w.enter steps) := by
  have holds := h.holds
  cases hstate : w.world.session with
  | initializing =>
    rw [hstate] at holds
    cases holds
  | authenticated identity token =>
    have henter : w.enter steps = w.watch steps := by
      simp [enter, hstate, RouteGuard.forProtected, SessionState.phase]
    rw [henter]
    exact watch_course ⟨.probed h.holds, h.quiet, h.settled⟩ hstate hengine steps
  | anonymous =>
    have hprobed : Plain w.events [.probedAnonymous] := by
      rw [hstate] at holds
      cases holds with
      | anonymous plain => exact plain
    simp only [enter, hstate, RouteGuard.forProtected, SessionState.phase]
    cases hconfigured : w.config.credentials with
    | none => exact .unwatched (.probed (.anonymous (hprobed.log _)))
    | some credentials =>
      obtain ⟨answer, w', hask, hstands, hconfig, hanswer⟩ :=
        stands_login h.quiet h.settled hstate hconfigured hprobed
      simp only [hask]
      rcases hanswer with ⟨⟨e, rfl⟩, hanonymous⟩ | ⟨hanswer, identity, token, hopened⟩
      · exact .unwatched (hanonymous ▸ hstands.holds.log _)
      · rw [← hconfig] at hstands hengine ⊢
        split
        · next e _ heq =>
          exact absurd (Option.some.inj (Prod.mk.inj heq).1) (hanswer e)
        · next heq =>
          obtain ⟨-, rfl⟩ := Prod.mk.inj heq
          exact watch_course hstands hopened hengine steps

/-- An interval that a configuration holds is never zero, so that polling can always be set
up. -/
theorem engine_of_ofEnvironment {env : Environment} {config : Config}
    (h : Config.ofEnvironment env = .ok config) :
    ∃ engine, PollingEngine.ofConfig config = .ok engine := by
  have hpos : 0 < config.pollIntervalMs := by
    simp only [Config.ofEnvironment] at h
    split at h
    · cases h
    split at h
    · cases h
    split at h
    · cases h
    next hinterval =>
      split at h
      · cases h
      · obtain rfl := Except.ok.inj h
        exact Nat.pos_of_ne_zero hinterval
  have hnanos : 0 < millisecond * config.pollIntervalMs := Nat.mul_pos (by decide) hpos
  refine ⟨⟨⟨_, hnanos⟩⟩, ?_⟩
  rw [PollingEngine.ofConfig, PollingEngine.ofNanos, Interval.ofNanos, dif_pos hnanos]
  rfl

theorem run_cases (env : Environment) (server : Server) (steps : List WatchStep) :
    (∃ e, Config.ofEnvironment env = .error e ∧
      run env server steps = abort .misconfigured "configuration invalid" e.message) ∨
    ∃ config, Config.ofEnvironment env = .ok config ∧
      ((∃ error, run env server steps = abort .noSession "HTTP client init failed" error) ∨
        WatcherRun.Course config (run env server steps)) := by
  unfold run
  cases hconfig : Config.ofEnvironment env with
  | error e => exact Or.inl ⟨e, rfl, rfl⟩
  | ok config =>
    refine Or.inr ⟨config, rfl, ?_⟩
    cases hclient : HttpClient.ofConfig config with
    | error e => exact Or.inl ⟨e.message, by simp only [hclient]⟩
    | ok client =>
      refine Or.inr ?_
      obtain ⟨engine, hengine⟩ := engine_of_ofEnvironment hconfig
      let w : Watcher := { config, world := { backend := { client, server } } }
      obtain ⟨hstands, hw⟩ := stands_probe (w := w) ⟨rfl, rfl, rfl⟩ rfl rfl
      have hcourse := enter_course hstands ((congrArg _ hw).trans hengine) steps
      rw [hw] at hcourse
      simpa only [hclient] using hcourse

end Watcher


-- ---------------------------------------------------------------------------
-- The life cycle
-- ---------------------------------------------------------------------------

namespace WatcherRun

/-- What holds of a run that was given these settings, if they could be read. -/
structure Lives (settings : Except ConfigError Config) (r : WatcherRun) : Prop where
  /-- Settings that can be read have an interval to poll at. -/
  interval : ∀ config, settings = .ok config → ∃ engine, PollingEngine.ofConfig config = .ok engine
  /-- The backend is asked for a login only after a probe that found no session, and once. -/
  login : ∀ before id identity secret after,
    r.events = before ++ .auth (.sent id (.login identity secret)) :: after →
    sessionChanges before = [.probedAnonymous] ∧ loginsIn before = [] ∧ loginsIn after = []
  /-- Only the configured path is retrieved, and only once polling has started. -/
  retrieval : ∀ before path after, r.events = before ++ .retrieving path :: after →
    ∃ config session, settings = .ok config ∧ path = config.watchPath ∧
      .pollingStarted session ∈ before
  /-- Polling starts in a session that the probe has found or a login with the credentials has
  opened. From there on the backend is asked for one logout, with the token of that session,
  and in the end nobody is signed in. -/
  polling : ∀ before session after, r.events = before ++ .pollingStarted session :: after →
    ∃ config identity token, settings = .ok config ∧ session = .authenticated identity token ∧
      (sessionChanges before = [.probedAuthenticated identity token] ∧ loginsIn before = [] ∨
        sessionChanges before = [.probedAnonymous, .loggedIn identity token] ∧
          ∃ credentials, config.credentials = some credentials ∧
            loginsIn before = [(Text.trim credentials.identity, credentials.secret)]) ∧
      logoutsIn before = [] ∧ logoutsIn after = [some token] ∧
      (∃ world, r.world = some world ∧ world.session = .anonymous) ∧ r.exit.code = 0
  /-- A run that never polls asks for no logout, and its exit code says whether the settings
  could be read. -/
  unwatched : (∀ session, .pollingStarted session ∉ r.events) →
    logoutsIn r.events = [] ∧
      ((∃ e, settings = .error e) ∧ r.exit.code = 2 ∨
        (∃ config, settings = .ok config) ∧ r.exit.code = 1)

variable {settings : Except ConfigError Config} {r : WatcherRun}

/-- A run in which nothing was polled. -/
theorem lives_of_idle
    (interval : ∀ config, settings = .ok config →
      ∃ engine, PollingEngine.ofConfig config = .ok engine)
    (idle : ∀ e ∈ r.events, e.isIdle = true) (logouts : logoutsIn r.events = [])
    (login : ∀ before id identity secret after,
      r.events = before ++ .auth (.sent id (.login identity secret)) :: after →
      sessionChanges before = [.probedAnonymous] ∧ loginsIn before = [] ∧ loginsIn after = [])
    (code : (∃ e, settings = .error e) ∧ r.exit.code = 2 ∨
      (∃ config, settings = .ok config) ∧ r.exit.code = 1) : r.Lives settings where
  interval := interval
  login := login
  retrieval before path after hsplit := by
    have hidle := idle (.retrieving path) (by rw [hsplit]; exact List.mem_append_cons_self)
    cases hidle
  polling before session after hsplit := by
    have hidle := idle (.pollingStarted session) (by rw [hsplit]; exact List.mem_append_cons_self)
    cases hidle
  unwatched _ := ⟨logouts, code⟩

/-- A run that ends before there is a gateway. -/
theorem lives_abort
    (interval : ∀ config, settings = .ok config →
      ∃ engine, PollingEngine.ofConfig config = .ok engine)
    {exit : WatcherExit} (message error : String)
    (code : (∃ e, settings = .error e) ∧ exit.code = 2 ∨
      (∃ config, settings = .ok config) ∧ exit.code = 1) :
    (Watcher.abort exit message error).Lives settings := by
  refine lives_of_idle interval (List.forall_mem_singleton.2 rfl) rfl ?_ code
  intro before id identity secret after hsplit
  have hnone : loginsIn (Watcher.abort exit message error).events = [] := rfl
  refine absurd ?_ (login_notMem hnone id identity secret)
  rw [hsplit]
  exact List.mem_append_cons_self

/-- Once polling has started, no login is asked for, and one logout. -/
theorem calls_of_polling {path : String} {polled closing : List WatcherEvent}
    (session : SessionState) (id : Nat) (token : Option String)
    (polling : ∀ e ∈ polled, e.isPolling path) (closed : Plain closing [.loggedOut]) :
    loginsIn (.pollingStarted session ::
        (polled ++ .auth (.sent id (.logout token)) :: closing)) = [] ∧
      logoutsIn (polled ++ .auth (.sent id (.logout token)) :: closing) = [token] := by
  have hauth : authIn polled = [] := authIn_of_isPolling polling
  have hlogins : loginsIn polled = [] := by rw [loginsIn, callsIn, hauth]; rfl
  have hlogouts : logoutsIn polled = [] := by rw [logoutsIn, callsIn, hauth]; rfl
  constructor
  · show loginsIn (polled ++ _) = []
    rw [loginsIn_append, hlogins]
    exact closed.loginsIn_eq
  · rw [logoutsIn_append, hlogouts, logoutsIn_logout, closed.logoutsIn_eq]
    rfl

/-- What comes after the start of polling is none, and retrieves the path alone. -/
theorem polled_of_mem {path : String} {polled closing : List WatcherEvent} {id : Nat}
    {token : Option String} (polling : ∀ e ∈ polled, e.isPolling path)
    (closed : Plain closing [.loggedOut]) {e : WatcherEvent}
    (h : e ∈ polled ++ .auth (.sent id (.logout token)) :: closing) :
    e.isPolling path ∨ e.isIdle = true := by
  rw [List.mem_append, List.mem_cons] at h
  rcases h with h | rfl | h
  · exact Or.inl (polling e h)
  · exact Or.inr rfl
  · exact Or.inr (closed.idle e h)

theorem Course.lives {config : Config} (h : r.Course config)
    (interval : ∃ engine, PollingEngine.ofConfig config = .ok engine) :
    r.Lives (.ok config) := by
  have hinterval : ∀ config', Except.ok (ε := ConfigError) config = .ok config' →
      ∃ engine, PollingEngine.ofConfig config' = .ok engine := by
    rintro _ ⟨⟩
    exact interval
  cases h with
  | unwatched opening =>
    refine lives_of_idle hinterval opening.idle opening.logoutsIn_eq ?_ (Or.inr ⟨⟨_, rfl⟩, rfl⟩)
    intro before id identity secret after hsplit
    exact opening.login_once rfl ((List.append_nil _).trans hsplit)
  | @watched opened polled closing identity token id world opening polling closed anonymous =>
    obtain ⟨hlogins, hlogouts⟩ :=
      calls_of_polling (.authenticated identity token) id (some token) polling closed
    refine ⟨hinterval, ?once, ?path, ?session, ?never⟩
    case once =>
      intro before id' identity' secret after hsplit
      exact opening.login_once hlogins hsplit
    case path =>
      intro before path after hsplit
      have hbefore : .retrieving path ∉ opened := fun hmem => by cases opening.idle _ hmem
      have hafter : .retrieving path ∈
          polled ++ .auth (.sent id (.logout (some token))) :: closing → path = config.watchPath := by
        intro hmem
        rcases polled_of_mem polling closed hmem with hpath | hidle
        · exact hpath
        · cases hidle
      rcases List.append_eq_append_iff.1 hsplit with ⟨more, rfl, hmore⟩ | ⟨more, rfl, hmore⟩
      · cases more with
        | nil => cases hmore
        | cons e more =>
          obtain ⟨rfl, hrest⟩ := List.cons.inj hmore
          refine ⟨config, _, rfl, hafter ?_, List.mem_append_cons_self⟩
          rw [hrest]
          exact List.mem_append_cons_self
      · cases more with
        | nil => cases hmore
        | cons e more =>
          obtain ⟨rfl, -⟩ := List.cons.inj hmore
          exact absurd List.mem_append_cons_self hbefore
    case session =>
      intro before session after hsplit
      have hbefore : .pollingStarted session ∉ opened := fun hmem => by cases opening.idle _ hmem
      have hafter : .pollingStarted session ∉
          polled ++ .auth (.sent id (.logout (some token))) :: closing := by
        intro hmem
        rcases polled_of_mem polling closed hmem with hpolling | hidle
        · exact hpolling
        · cases hidle
      obtain ⟨rfl, hsession, rfl⟩ := (List.append_cons_inj_of_notMem hbefore hafter).1 hsplit
      obtain rfl := (WatcherEvent.pollingStarted.inj hsession)
      exact ⟨config, identity, token, rfl, rfl, opening.opened_by, opening.logoutsIn_eq, hlogouts,
        ⟨world, rfl, anonymous⟩, rfl⟩
    case never => exact fun hnone => absurd List.mem_append_cons_self (hnone _)

end WatcherRun

/-- Whatever the environment says, whatever the server answers and whenever the interrupt
comes, a run keeps to its life cycle. -/
theorem watcher_life_cycle (env : Environment) (server : Server) (steps : List WatchStep) :
    (Watcher.run env server steps).Lives (Config.ofEnvironment env) := by
  have hinterval : ∀ config, Config.ofEnvironment env = .ok config →
      ∃ engine, PollingEngine.ofConfig config = .ok engine :=
    fun _ => Watcher.engine_of_ofEnvironment
  rcases Watcher.run_cases env server steps with ⟨e, hconfig, hrun⟩ | ⟨config, hconfig, hrun⟩
  · rw [hrun]
    exact WatcherRun.lives_abort hinterval _ _ (Or.inl ⟨⟨e, hconfig⟩, rfl⟩)
  · rcases hrun with ⟨error, hrun⟩ | hcourse
    · rw [hrun]
      exact WatcherRun.lives_abort hinterval _ _ (Or.inr ⟨⟨config, hconfig⟩, rfl⟩)
    · rw [hconfig]
      exact hcourse.lives (hinterval config hconfig)

/-- A probe finds nobody, the credentials sign in, the path is retrieved, and the connection is
closed on the logout: the session of the login is polled in, and it is over. -/
theorem login_is_polled_and_ended :
    let reply (text : String) : ServerReply := .respond { status := 200, sent := text.toUTF8.toList }
    let env : Environment := .ofList [("DASHSYNC_BASE_URL", "http://h".toUTF8.toList),
      ("DASHSYNC_IDENTITY", "ann".toUTF8.toList), ("DASHSYNC_SECRET_ENV", "KEY".toUTF8.toList),
      ("KEY", "pw".toUTF8.toList)]
    let server : Server := { replies :=
      [.respond { status := 401 }, reply "\x7b\"identity\":\"ann\",\"token\":\"t1\"\x7d",
        reply "[]", .hangUp] }
    let r := Watcher.run env server
    r.requests.map (fun q => (q.method, q.target)) =
        [(.get, "/api/auth/session"), (.post, "/api/auth/login"), (.get, "/api/status"),
          (.post, "/api/auth/logout")] ∧
      sessionChanges r.events = [.probedAnonymous, .loggedIn "ann" "t1", .loggedOut] ∧
      logoutsIn r.events = [some "t1"] ∧ r.Lives (Config.ofEnvironment env) := by
  refine ⟨?_, ?_, ?_, watcher_life_cycle _ _ WatchStep.once⟩
  · decide +kernel
  · decide +kernel
  · decide +kernel

end DashboardClient
