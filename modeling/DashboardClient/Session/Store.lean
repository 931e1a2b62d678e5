import DashboardClient.Session.State
import DashboardClient.Watched

/-!
# Session store

The session as everyone sees it. The epoch counts session boundaries: each login, each
logout and the end of the startup probe. A token that was fetched under one epoch is
installed only while that epoch lasts, so it never reaches another session.
-/

namespace DashboardClient

/-- The watched session and the number of boundaries so far. -/
structure SessionStore where
  watched : Watched SessionState := { value := .initializing }
  epoch : Nat := 0
  deriving Repr

namespace SessionStore

def state (s : SessionStore) : SessionState :=
  s.watched.value

def phase (s : SessionStore) : SessionPhase :=
  s.state.phase

def token? (s : SessionStore) : Option String :=
  s.state.token?

/-- Cross a session boundary. -/
def begin (s : SessionStore) (next : SessionState) : SessionStore :=
  { watched := s.watched.write next, epoch := s.epoch + 1 }

/-- Leave any session for the anonymous one. -/
def resetAnonymous (s : SessionStore) : SessionStore :=
  s.begin .anonymous

/-- Install an identity and its token together. -/
def setAuthenticated (s : SessionStore) (identity token : String) : SessionStore :=
  s.begin (.authenticated identity token)

/-- Replace the token of the session that was current at `epoch`. Answers whether that
session still lasts; an equal token makes no new version. -/
def replaceToken (s : SessionStore) (epoch : Nat) (token : String) : Bool × SessionStore :=
  match s.state with
  | .authenticated identity current =>
    if s.epoch = epoch then
      if current = token then (true, s)
      else (true, { s with watched := s.watched.write (.authenticated identity token) })
    else (false, s)
  | _ => (false, s)

end SessionStore

end DashboardClient
