import DashboardClient.Log
import DashboardClient.Polling.Schedule
import DashboardClient.Polling.Snapshot
import DashboardClient.ReplaceFirst
import DashboardClient.Watched

/-!
# Subscriptions

A subscription keeps one value fresh. Each activation has a task of its own that waits
for the order to stop, for the next tick or for a request to refresh, and heeds them in
this order. The task retrieves, applies the outcome and waits again, so an activation
never has two retrievals in flight.

Tasks are not aborted. A revoked task ends where it next chooses what to do; if it is
inside a retrieval, it ends when that settles, and the outcome is discarded, because
the generation of the snapshot is no longer the task's own.

Every definition here is one atomic step. Steps of the owner and of any number of
tasks may come in any order; who runs when is decided elsewhere.
-/

namespace DashboardClient

-- ---------------------------------------------------------------------------
-- Tasks
-- ---------------------------------------------------------------------------

/-- Where a task stands between two steps. -/
inductive PollPhase where
  | spawned
  | waiting (due : Nat)
  | retrieving (number since due : Nat)
  deriving DecidableEq, Repr

/-- The task of one activation. A request to refresh that is made while the task waits
is handed to it and one more is kept; at any other time one is kept. -/
structure PollTask where
  generation : Nat
  phase : PollPhase := .spawned
  beforeFirst : Bool := true
  stopRequested : Bool := false
  refreshes : Nat := 0
  deriving DecidableEq, Repr

/-- What made a task retrieve. -/
inductive PollTrigger where
  | tick (due : Nat)
  | refresh
  deriving DecidableEq, Repr

/-- What a task does where it chooses. -/
inductive PollChoice where
  | leave
  | wait
  | retrieve (trigger : PollTrigger) (due refreshes : Nat)
  deriving DecidableEq, Repr

namespace PollTask

/-- The choice at `now` of a task whose next tick is due at `due`. -/
def choose (t : PollTask) (period now due : Nat) : PollChoice :=
  if t.stopRequested then .leave
  else if due ≤ now then .retrieve (.tick due) (nextDue period now due) (min t.refreshes 1)
  else if 0 < t.refreshes then .retrieve .refresh due (t.refreshes - 1)
  else .wait

/-- The task has had its first retrieval. -/
def afterFirst (t : PollTask) : PollTask :=
  { t with beforeFirst := false }

/-- Keep a request to refresh. -/
def request (t : PollTask) : PollTask :=
  match t.phase with
  | .waiting _ => { t with refreshes := min (t.refreshes + 1) 2 }
  | _ => { t with refreshes := 1 }

/-- The task would do something if it ran at `now`. -/
def isReady (t : PollTask) (now : Nat) : Bool :=
  match t.phase with
  | .spawned => true
  | .waiting due => t.stopRequested || due ≤ now || 0 < t.refreshes
  | .retrieving _ _ _ => false

/-- The number of the retrieval that the task is inside of. -/
def retrieval? (t : PollTask) : Option Nat :=
  match t.phase with
  | .retrieving number _ _ => some number
  | _ => none

/-- The task has a timer: it waits for a tick or will start to. -/
def isTiming (t : PollTask) : Bool :=
  t.retrieval?.isNone

end PollTask


-- ---------------------------------------------------------------------------
-- Subscriptions
-- ---------------------------------------------------------------------------

/-- A subscription: what its owner set, its current activation by generation, the tasks
that are still running, and how many retrievals were started. -/
structure Subscription (α : Type) where
  watched : Watched (Snapshot α) := { value := {} }
  interval : Interval
  enabled : Bool
  resyncKey : Option String
  activation : Option Nat := none
  tasks : List PollTask := []
  started : Nat := 0
  dropped : Bool := false

/-- What happens in the life of a subscription. A failure is fresh when it is the first
since a success or since the activation began. -/
inductive PollEvent (α : Type) where
  | activated (generation : Nat) (key : Option String) (intervalMs : Nat)
  | deactivated (generation : Nat)
  | started (number generation : Nat) (trigger : PollTrigger)
  | succeeded (number generation : Nat) (value : α)
  | failed (number generation : Nat) (error : RetrievalError) (fresh : Bool)
  | discarded (number generation : Nat)

/-- The line that an event writes to the log. -/
def PollEvent.line? {α : Type} : PollEvent α → Option LogLine
  | .activated generation key intervalMs =>
    some ⟨.debug, "polling activated",
      [("generation", .shown (toString generation)), ("key", .shown (Text.quotedOption key)),
       ("interval_ms", .shown (toString intervalMs))]⟩
  | .deactivated generation =>
    some ⟨.debug, "polling deactivated", [("generation", .shown (toString generation))]⟩
  | .failed _ generation error true =>
    some ⟨.warn, "retrieval failed; keeping last data",
      [("generation", .shown (toString generation)), ("error", .shown error.message),
       ("code", .text error.code)]⟩
  | .failed _ generation error false =>
    some ⟨.debug, "retrieval still failing",
      [("generation", .shown (toString generation)), ("error", .shown error.message)]⟩
  | .discarded _ generation =>
    some ⟨.debug, "discarding retrieval that settled after deactivation",
      [("generation", .shown (toString generation))]⟩
  | .started _ _ _ => none
  | .succeeded _ _ _ => none

namespace Subscription

variable {α : Type}

def snapshot (s : Subscription α) : Snapshot α :=
  s.watched.value

def generation (s : Subscription α) : Nat :=
  s.snapshot.generation

def isActive (s : Subscription α) : Bool :=
  s.activation.isSome

/-- The task of an activation. -/
def task? (s : Subscription α) (generation : Nat) : Option PollTask :=
  s.tasks.find? (·.generation == generation)

/-- The task that is inside the retrieval with this number. -/
def retrieving? (s : Subscription α) (number : Nat) : Option PollTask :=
  s.tasks.find? (·.retrieval? == some number)

/-- Somebody is left who could write the snapshot. -/
def isOpen (s : Subscription α) : Bool :=
  !s.dropped || !s.tasks.isEmpty

/-- How many retrievals are in flight. -/
def inFlight (s : Subscription α) : Nat :=
  (s.tasks.filter fun t => t.retrieval?.isSome).length


-- ---------------------------------------------------------------------------
-- Steps of the owner
-- ---------------------------------------------------------------------------

/-- Begin an activation with a task of its own. -/
def activate (s : Subscription α) : Subscription α × List (PollEvent α) :=
  let watched := s.watched.modify .activate
  let generation := watched.value.generation
  ({ s with
      watched
      activation := some generation
      tasks := s.tasks ++ [{ generation }] },
   [.activated generation s.resyncKey s.interval.millis])

/-- End the current activation, if there is one, and tell its task to stop. -/
def deactivate (s : Subscription α) : Subscription α × List (PollEvent α) :=
  match s.activation with
  | none => (s, [])
  | some generation =>
    ({ s with
        watched := s.watched.modify .deactivate
        activation := none
        tasks := s.tasks.map fun t =>
          if t.generation = generation then { t with stopRequested := true } else t },
     [.deactivated generation])

/-- A new subscription, active from the start if it is enabled. -/
def new (options : PollOptions) : Subscription α × List (PollEvent α) :=
  let s : Subscription α :=
    { interval := options.interval, enabled := options.enabled, resyncKey := options.resyncKey }
  if options.enabled then s.activate else (s, [])

/-- Start or stop polling. Setting what is set already does nothing. -/
def setEnabled (s : Subscription α) (enabled : Bool) : Subscription α × List (PollEvent α) :=
  if s.enabled = enabled then (s, [])
  else
    let s := { s with enabled }
    if enabled then s.activate else s.deactivate

/-- Change the key. Another key while polling is enabled starts it over. -/
def setResyncKey (s : Subscription α) (key : Option String) :
    Subscription α × List (PollEvent α) :=
  if s.resyncKey = key then (s, [])
  else
    let s := { s with resyncKey := key }
    if s.enabled then
      let (stopped, before) := s.deactivate
      let (fresh, after) := stopped.activate
      (fresh, before ++ after)
    else (s, [])

/-- Whether a request to refresh is taken. -/
def acceptsRefresh (s : Subscription α) : Bool :=
  s.isActive

/-- Ask for a retrieval outside the schedule. -/
def refresh (s : Subscription α) : Subscription α :=
  match s.activation with
  | none => s
  | some generation =>
    { s with tasks := s.tasks.map fun t => if t.generation = generation then t.request else t }

/-- The owner lets go. -/
def drop (s : Subscription α) : Subscription α × List (PollEvent α) :=
  let (stopped, events) := s.deactivate
  ({ stopped with dropped := true }, events)


-- ---------------------------------------------------------------------------
-- Steps of the tasks
-- ---------------------------------------------------------------------------

/-- What becomes of a task that chooses at `now`, with the number of retrievals started
so far and the generation of the snapshot. A retrieval is only started in the task's own
generation. -/
def proceed (s : Subscription α) (t : PollTask) (now due : Nat) :
    Option PollTask × Nat × List (PollEvent α) :=
  match t.choose s.interval.nanos now due with
  | .leave => (none, s.started, [])
  | .wait => (some { t with phase := .waiting due }, s.started, [])
  | .retrieve trigger due refreshes =>
    if s.generation = t.generation then
      let number := s.started + 1
      (some { t with phase := .retrieving number now due, refreshes }, number,
       [.started number t.generation trigger])
    else (none, s.started, [])

/-- Run the task of an activation up to where it next has to wait. The first tick is due
when the task first runs. -/
def turn (s : Subscription α) (now generation : Nat) : Subscription α × List (PollEvent α) :=
  match s.task? generation with
  | none => (s, [])
  | some t =>
    let chooseAt (due : Nat) :=
      let (t', started, events) := s.proceed t now due
      ({ s with tasks := replaceFirst (·.generation == generation) t' s.tasks, started }, events)
    match t.phase with
    | .spawned => chooseAt now
    | .waiting due => chooseAt due
    | .retrieving _ _ _ => (s, [])

/-- The outcome of a task's retrieval goes into the snapshot. -/
def applyOutcome (s : Subscription α) (t : PollTask) (now : Nat)
    (outcome : Except RetrievalError α) : Subscription α :=
  { s with watched := s.watched.modify (·.apply now t.beforeFirst outcome) }

/-- The event of an outcome that is applied. -/
def outcomeEvent (s : Subscription α) (number generation : Nat) :
    Except RetrievalError α → PollEvent α
  | .ok value => .succeeded number generation value
  | .error e => .failed number generation e s.snapshot.error.isNone

/-- A retrieval settles. Its outcome is applied if its activation is still current, and
the task goes on; otherwise it is discarded and the task ends. -/
def settle (s : Subscription α) (now number : Nat) (outcome : Except RetrievalError α) :
    Subscription α × List (PollEvent α) :=
  match s.retrieving? number with
  | none => (s, [])
  | some t =>
    match t.phase with
    | .retrieving _ _ due =>
      if s.generation = t.generation then
        let applied := s.applyOutcome t now outcome
        let (t', started, events) := applied.proceed t.afterFirst now due
        ({ applied with
            tasks := replaceFirst (·.retrieval? == some number) t' s.tasks, started },
         s.outcomeEvent number t.generation outcome :: events)
      else
        ({ s with tasks := replaceFirst (·.retrieval? == some number) none s.tasks },
         [.discarded number t.generation])
    | _ => (s, [])

end Subscription


-- ---------------------------------------------------------------------------
-- Actions
-- ---------------------------------------------------------------------------

/-- One atomic step in the life of a subscription. -/
inductive PollAction (α : Type) where
  | setEnabled (enabled : Bool)
  | setResyncKey (key : Option String)
  | refresh
  | drop
  | turn (generation : Nat)
  | settle (number : Nat) (outcome : Except RetrievalError α)

namespace Subscription

variable {α : Type}

/-- Take one step at time `now`. The owner's steps are over once it has let go. -/
def act (s : Subscription α) (now : Nat) : PollAction α → Subscription α × List (PollEvent α)
  | .setEnabled enabled => if s.dropped then (s, []) else s.setEnabled enabled
  | .setResyncKey key => if s.dropped then (s, []) else s.setResyncKey key
  | .refresh => if s.dropped then (s, []) else (s.refresh, [])
  | .drop => if s.dropped then (s, []) else s.drop
  | .turn generation => s.turn now generation
  | .settle number outcome => s.settle now number outcome

/-- Take the steps of a list, each at its time, and note when what happens. -/
def run (s : Subscription α) :
    List (Nat × PollAction α) → Subscription α × List (Nat × PollEvent α)
  | [] => (s, [])
  | (now, a) :: rest =>
    let (s', events) := s.act now a
    let (s'', later) := s'.run rest
    (s'', events.map (now, ·) ++ later)

end Subscription

end DashboardClient
