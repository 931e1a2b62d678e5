import DashboardClient.Auth.World
import DashboardClient.EnvFile
import DashboardClient.Guard
import DashboardClient.Http.Connection
import DashboardClient.LogFilter
import DashboardClient.Polling.Subscription

/-!
# The watcher

Signs in, polls one path of the backend until it is interrupted, and signs out. A
session that the startup probe finds is used as it is; otherwise the configured
credentials sign in, and without a session nothing is polled. The interrupt may come at
any time while it polls; where nothing else is said, it comes after the first retrieval.
Settings come from the environment and from an environment file, and the environment also
says which lines are shown.
-/

namespace DashboardClient

open Json (Value)

/-- How a run ends: interrupted while it watched, without a session to watch in, without
a usable configuration, or on an environment file that cannot be obeyed. -/
inductive WatcherExit where
  | interrupted
  | noSession
  | misconfigured
  | unloadable
  deriving DecidableEq, Repr

def WatcherExit.code : WatcherExit → UInt8
  | .interrupted => 0
  | .noSession => 1
  | .misconfigured => 2
  | .unloadable => 101

/-- What happens in a run. -/
inductive WatcherEvent where
  | auth (event : AuthEvent)
  | logged (line : LogLine)
  | pollingStarted (session : SessionState)
  | retrieving (path : String)
  | retrieved (path : String) (outcome : Except RetrievalError Value)

/-- A run that is over: how it ended, all that happened, and the gateway as it was left,
if there was one. -/
structure WatcherRun where
  exit : WatcherExit
  events : List WatcherEvent
  world : Option (AuthWorld Connection)

namespace WatcherRun

/-- The watcher's own lines. -/
def lines (r : WatcherRun) : List LogLine :=
  r.events.filterMap fun
    | .logged line => some line
    | _ => none

/-- The watcher's own lines, as far as a filter shows them. -/
def shownLines (r : WatcherRun) (filter : LogFilter) : List LogLine :=
  r.lines.filter (filter.shows "dashsync")

/-- The requests that reached the server, in order. -/
def requests (r : WatcherRun) : List HttpRequest :=
  match r.world with
  | some w => w.backend.server.received.reverse
  | none => []

end WatcherRun

/-- A run that goes on: the gateway, and what has happened so far. -/
structure Watcher where
  config : Config
  world : AuthWorld Connection
  events : List WatcherEvent := []

/-- What may happen while the watcher polls, until the interrupt: time passes, the task of
the subscription runs, the outcome of its retrieval arrives, or the watcher looks at the
snapshot. -/
inductive WatchStep where
  | pass (nanos : Nat)
  | turn
  | settle
  | look
  deriving DecidableEq, Repr

/-- The first retrieval, up to the look at its outcome. -/
def WatchStep.once : List WatchStep :=
  [.turn, .settle, .look]

/-- A watcher that polls: its subscription, the outcome that is on its way to a retrieval,
and the version of the snapshot that was seen last. -/
structure Watching where
  watcher : Watcher
  subscription : Subscription Value
  underway : Option (Nat × Except RetrievalError Value) := none
  receiver : Receiver

namespace Watcher

-- ---------------------------------------------------------------------------
-- Steps
-- ---------------------------------------------------------------------------

def note (w : Watcher) (e : WatcherEvent) : Watcher :=
  { w with events := w.events ++ [e] }

/-- Write a line to the log. -/
def log (w : Watcher) (level : LogLevel) (message : String) (fields : List (String × LogValue)) :
    Watcher :=
  w.note (.logged { level, message, fields })

/-- Ask something of the gateway and wait for the answer. -/
def ask (w : Watcher) (request : AuthRequest) : Option AuthAnswer × Watcher :=
  let world := w.world.start request
  let fresh := world.history.take (world.history.length - w.world.history.length)
  (world.answer? w.world.started,
   { w with world, events := w.events ++ fresh.reverse.map fun (_, e) => .auth e })

/-- The run is over. -/
def finish (w : Watcher) (exit : WatcherExit) : WatcherRun :=
  { exit, events := w.events, world := some w.world }


-- ---------------------------------------------------------------------------
-- Parts of a run
-- ---------------------------------------------------------------------------

/-- Find out whether there is a session. A failure is no reason to stop. -/
def probe (w : Watcher) : Watcher :=
  match w.ask .probe with
  | (some (.phase phase), w) =>
    w.log .info "session resolved"
      [("phase", .shown phase.name), ("base_url", .text w.world.backend.client.baseUrl)]
  | (some (.error e), w) =>
    w.log .warn "session probe incomplete; continuing anonymous" [("error", .shown e.message)]
  | (_, w) => w

/-- Sign out and end. The local session is over whatever the backend says. -/
def signOut (w : Watcher) : WatcherRun :=
  match w.ask .logout with
  | (some (.error e), w) =>
    (w.log .warn "remote logout failed; local session cleared"
      [("error", .shown e.message)]).finish .interrupted
  | (_, w) => w.finish .interrupted

/-- Say what a snapshot shows. -/
def report (w : Watcher) (s : Snapshot Value) : Watcher :=
  match s.error, s.data with
  | some e, _ =>
    w.log .warn "status retrieval failing; showing last data" [("error", .shown e)]
  | none, some data => w.log .info "status updated" [("data", .shown data.render)]
  | none, none => w

end Watcher


-- ---------------------------------------------------------------------------
-- Polling
-- ---------------------------------------------------------------------------

namespace Watching

/-- Begin to poll. What the subscription is like from the start counts as seen. -/
def start (w : Watcher) (engine : PollingEngine) : Watching :=
  let (subscription, _) := Subscription.new engine.defaultOptions
  { watcher := w, subscription, receiver := subscription.watched.subscribe }

/-- Let the subscription take a step. If it starts a retrieval, that is sent. -/
def advance (v : Watching) (subscription : Subscription Value) : Watching :=
  if subscription.started = v.subscription.started then { v with subscription }
  else
    let w := v.watcher
    let path := w.config.watchPath
    let (outcome, backend) := w.world.backend.retrieve Value.ofText? path
    { v with
      watcher := { w with world := { w.world with backend } }.note (.retrieving path)
      subscription
      underway := some (subscription.started, outcome) }

/-- Say what the snapshot shows, if it is news. -/
def look (v : Watching) : Watching :=
  if v.subscription.watched.hasNews v.receiver then
    { v with
      watcher := v.watcher.report v.subscription.snapshot
      receiver := v.subscription.watched.subscribe }
  else v

def step (v : Watching) : WatchStep → Watching
  | .pass nanos =>
    let w := v.watcher
    { v with watcher := { w with world := { w.world with now := w.world.now + nanos } } }
  | .turn => v.advance (v.subscription.turn v.watcher.world.now v.subscription.generation).1
  | .settle =>
    match v.underway with
    | none => v
    | some (number, outcome) =>
      let path := v.watcher.config.watchPath
      let settled := (v.subscription.settle v.watcher.world.now number outcome).1
      { v with
        watcher := v.watcher.note (.retrieved path outcome)
        underway := none }.advance settled
  | .look => v.look

end Watching


-- ---------------------------------------------------------------------------
-- A whole run
-- ---------------------------------------------------------------------------

namespace Watcher

/-- Poll while the steps are taken. -/
def poll (w : Watcher) (engine : PollingEngine) (steps : List WatchStep) : Watcher :=
  (steps.foldl Watching.step (Watching.start w engine)).watcher

/-- Poll until the interrupt, then sign out. -/
def watch (w : Watcher) (steps : List WatchStep) : WatcherRun :=
  match PollingEngine.ofConfig w.config with
  | .error e =>
    (w.log .error "polling config invalid" [("error", .shown e.message)]).finish .misconfigured
  | .ok engine =>
    let session := w.world.session
    let w := w.log .info "watching"
      [("path", .text w.config.watchPath),
       ("interval_ms", .shown (toString w.config.pollIntervalMs)),
       ("identity", .text (session.identity?.getD ""))]
    let w := (w.note (.pollingStarted session)).poll engine steps
    (w.log .info "shutting down" []).signOut

/-- Go on if there is a session, or once the credentials have opened one. -/
def enter (w : Watcher) (steps : List WatchStep) : WatcherRun :=
  match (RouteGuard.ofConfig w.config).forProtected w.world.session with
  | .redirect target _ =>
    match w.config.credentials with
    | none =>
      (w.log .error "not signed in and no DASHSYNC_IDENTITY configured"
        [("to", .shown target)]).finish .noSession
    | some credentials =>
      match w.ask (.login credentials.identity credentials.secret) with
      | (some (.error e), w) =>
        (w.log .error "login failed"
          [("error", .shown e.message), ("identity", .shown credentials.identity)]).finish
          .noSession
      | (_, w) => w.watch steps
  | _ => w.watch steps

/-- A run that ends before there is a gateway. -/
def abort (exit : WatcherExit) (message error : String) : WatcherRun :=
  { exit, events := [.logged ⟨.error, message, [("error", .shown error)]⟩], world := none }

/-- A whole run in an environment, against a server. -/
def run (env : Environment) (server : Server) (steps : List WatchStep := WatchStep.once) :
    WatcherRun :=
  match Config.ofEnvironment env with
  | .error e => abort .misconfigured "configuration invalid" e.message
  | .ok config =>
    match HttpClient.ofConfig config with
    | .error e => abort .noSession "HTTP client init failed" e.message
    | .ok client =>
      ({ config, world := { backend := { client, server } } } : Watcher).probe.enter steps

/-- A whole run in an environment and an environment file, against a server, with the lines
that it shows. -/
def runWith (env : Environment) (file : String) (server : Server)
    (steps : List WatchStep := WatchStep.once) : WatcherRun × List LogLine :=
  match EnvFile.load env file with
  | none => ({ exit := .unloadable, events := [], world := none }, [])
  | some env =>
    let r := run env server steps
    (r, r.shownLines (LogFilter.ofEnvironment env))

end Watcher

end DashboardClient
