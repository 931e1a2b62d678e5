import DashboardClient.Session.Store

/-!
# Session hub

Everyone who holds on to one session store: the named handles, the tasks that wait for
the session to resolve, and the receivers. A waiting task holds the store by itself
until it ends, so the store outlives the handles while anyone waits.
-/

namespace DashboardClient

/-- A session store with its holders and observers. -/
structure SessionHub where
  store : SessionStore := {}
  handles : List String := ["main"]
  waiters : List String := []
  receivers : Receivers := []

/-- How a wait for a resolved session ended: with the state it waited for, or with
whatever was there when nobody was left to write. -/
inductive WaitEnd where
  | resolved (state : SessionState)
  | closed (state : SessionState)
  deriving DecidableEq, Repr

def WaitEnd.state : WaitEnd → SessionState
  | .resolved s => s
  | .closed s => s

namespace SessionHub

/-- Somebody is left who could write the store. -/
def isOpen (hub : SessionHub) : Bool :=
  !hub.handles.isEmpty || !hub.waiters.isEmpty

/-- Change the store through a handle. -/
def update (hub : SessionHub) (f : SessionStore → SessionStore) : SessionHub :=
  { hub with store := f hub.store }

/-- Another handle on the same store. -/
def clone (hub : SessionHub) (name : String) : SessionHub :=
  { hub with handles := name :: hub.handles.filter (· != name) }

/-- Let go of a handle. -/
def release (hub : SessionHub) (name : String) : SessionHub :=
  { hub with handles := hub.handles.filter (· != name) }

def subscribe (hub : SessionHub) (name : String) : SessionHub :=
  { hub with receivers := hub.receivers.set name hub.store.watched.subscribe }

/-- The receiver has seen the current state. -/
def markSeen (hub : SessionHub) (name : String) : SessionHub :=
  hub.subscribe name

/-- A task that waits for the session to resolve. -/
def await (hub : SessionHub) (task : String) : SessionHub :=
  { hub with waiters := hub.waiters ++ [task] }

/-- Run a waiting task. It ends when the session is resolved or the store is closed. -/
def pollWaiter (hub : SessionHub) : Option WaitEnd :=
  if !hub.store.state.isResolving then some (.resolved hub.store.state)
  else if !hub.isOpen then some (.closed hub.store.state)
  else none

/-- Run every waiting task once, in order of arrival; those that end let go of the store. -/
def runWaiters (hub : SessionHub) : SessionHub × List (String × WaitEnd) :=
  hub.waiters.foldl (fun (hub, ended) task =>
    match hub.pollWaiter with
    | some e => ({ hub with waiters := hub.waiters.filter (· != task) }, ended ++ [(task, e)])
    | none => (hub, ended)) (hub, [])

end SessionHub

end DashboardClient
