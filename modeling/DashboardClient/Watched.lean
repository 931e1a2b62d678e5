/-!
# Watched values

A value that is observed, with a version that counts how often it was written. A
receiver remembers the version it has seen; it has news when a later one was made.
The watched value is closed when nobody is left who could write it.
-/

namespace DashboardClient

/-- The current value and how many versions were made after the first. -/
structure Watched (α : Type) where
  value : α
  version : Nat := 0
  deriving Repr

/-- The version that an observer has seen. -/
structure Receiver where
  seen : Nat
  deriving DecidableEq, Repr

/-- What a receiver can say about the value it observes. -/
inductive News where
  | unchanged
  | changed
  | closed
  deriving DecidableEq, Repr

namespace Watched

variable {α : Type}

/-- Write a value, which makes a new version even if it equals the old one. -/
def write (w : Watched α) (value : α) : Watched α :=
  { value, version := w.version + 1 }

/-- Write what the function makes of the current value. -/
def modify (w : Watched α) (f : α → α) : Watched α :=
  w.write (f w.value)

/-- A receiver that has seen the current version. -/
def subscribe (w : Watched α) : Receiver :=
  { seen := w.version }

/-- A version was made that the receiver has not seen. -/
def hasNews (w : Watched α) (r : Receiver) : Bool :=
  r.seen != w.version

/-- What the receiver learns when it asks for changes. -/
def news (w : Watched α) (isOpen : Bool) (r : Receiver) : News :=
  if !isOpen then .closed else if w.hasNews r then .changed else .unchanged

end Watched

/-- The receivers of one watched value, by name. -/
abbrev Receivers := List (String × Receiver)

/-- Put a receiver under a name, in place of one that had it. -/
def Receivers.set (rs : Receivers) (name : String) (r : Receiver) : Receivers :=
  (name, r) :: rs.filter (·.1 != name)

end DashboardClient
