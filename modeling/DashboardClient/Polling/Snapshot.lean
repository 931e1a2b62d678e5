import DashboardClient.Polling.Options

/-!
# Snapshots

What a view shows of a subscription. The last data survives failures, pauses and new
starts; the error is that of the latest retrieval of the current activation.
-/

namespace DashboardClient

/-- What a view shows of a subscription. The generation counts activations and
deactivations. -/
structure Snapshot (α : Type) where
  data : Option α := none
  error : Option String := none
  initialLoading : Bool := false
  lastUpdated : Option Nat := none
  active : Bool := false
  generation : Nat := 0
  deriving Repr

namespace Snapshot

variable {α : Type}

/-- A new activation begins. -/
def activate (s : Snapshot α) : Snapshot α :=
  { s with generation := s.generation + 1, initialLoading := true, active := true, error := none }

/-- The activation is over. -/
def deactivate (s : Snapshot α) : Snapshot α :=
  { s with generation := s.generation + 1, initialLoading := false, active := false }

/-- A retrieval of the current activation has settled; `isFirst` if it is its first one. -/
def apply (s : Snapshot α) (now : Nat) (isFirst : Bool) : Except RetrievalError α → Snapshot α
  | .ok value =>
    { s with data := some value, error := none, lastUpdated := some now,
             initialLoading := !isFirst && s.initialLoading }
  | .error e => { s with error := some e.message, initialLoading := !isFirst && s.initialLoading }

end Snapshot

end DashboardClient
