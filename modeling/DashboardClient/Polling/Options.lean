import DashboardClient.ApiError
import DashboardClient.Config
import DashboardClient.Polling.Schedule

/-!
# Polling options

How often a subscription polls, whether it starts enabled, and the key whose change
starts it over. An interval is positive; asking for one of zero is an error.
-/

namespace DashboardClient

/-- Why polling cannot be set up. -/
inductive PollError where
  | zeroInterval
  deriving DecidableEq, Repr

def PollError.message : PollError → String
  | .zeroInterval => "polling interval must be positive"

/-- A positive length of time, in nanoseconds. -/
structure Interval where
  nanos : Nat
  pos : 0 < nanos
  deriving DecidableEq, Repr

namespace Interval

def ofNanos (nanos : Nat) : Except PollError Interval :=
  if h : 0 < nanos then .ok ⟨nanos, h⟩ else .error .zeroInterval

/-- The whole milliseconds of the interval. -/
def millis (i : Interval) : Nat :=
  i.nanos / millisecond

end Interval

/-- The settings of one subscription. -/
structure PollOptions where
  interval : Interval
  enabled : Bool := true
  resyncKey : Option String := none
  deriving DecidableEq, Repr

/-- Enabled polling without a key, once every `nanos` nanoseconds. -/
def PollOptions.every (nanos : Nat) : Except PollError PollOptions :=
  (Interval.ofNanos nanos).map fun interval => { interval }

/-- Makes subscriptions that share a default interval. -/
structure PollingEngine where
  defaultInterval : Interval
  deriving DecidableEq, Repr

namespace PollingEngine

def ofNanos (nanos : Nat) : Except PollError PollingEngine :=
  (Interval.ofNanos nanos).map PollingEngine.mk

/-- An engine with the interval of the configuration. -/
def ofConfig (config : Config) : Except PollError PollingEngine :=
  ofNanos (millisecond * config.pollIntervalMs)

def defaultOptions (engine : PollingEngine) : PollOptions :=
  { interval := engine.defaultInterval }

end PollingEngine


-- ---------------------------------------------------------------------------
-- Retrieval errors
-- ---------------------------------------------------------------------------

/-- Why a retrieval failed. -/
inductive RetrievalError where
  | api (error : ApiError)
  | failed (reason : String)
  deriving DecidableEq, Repr

namespace RetrievalError

def message : RetrievalError → String
  | .api e => e.message
  | .failed reason => reason

def code : RetrievalError → String
  | .api e => e.code
  | .failed _ => "E_RETRIEVAL"

def retryable : RetrievalError → Bool
  | .api e => e.retryable
  | .failed _ => true

end RetrievalError

end DashboardClient
