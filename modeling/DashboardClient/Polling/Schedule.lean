/-!
# Tick schedule

Times are counted in nanoseconds. Ticks fall due on a grid. A tick that is taken more than
five milliseconds late skips what was missed: the next one is the first of the grid after
now. A tick taken in time is followed by its neighbour on the grid, which may itself be due
already.
-/

namespace DashboardClient

/-- The nanoseconds of a millisecond. -/
def millisecond : Nat := 1000000

/-- A tick may be taken this late without counting as missed. -/
def lateTolerance : Nat := 5 * millisecond

/-- When the tick after the one due at `due` falls due, if that one is taken at `now`. -/
def nextDue (period now due : Nat) : Nat :=
  if due + lateTolerance < now then now + period - (now - due) % period
  else due + period

theorem lt_nextDue {period now due : Nat} (hp : 0 < period) (hd : due ≤ now) :
    due < nextDue period now due := by
  have := Nat.mod_lt (now - due) hp
  unfold nextDue
  split <;> omega

end DashboardClient
