/-!
# Session states

A session is being resolved, anonymous, or authenticated. An identity and an
anti-forgery token exist exactly when it is authenticated.
-/

namespace DashboardClient

/-- Where a session stands. -/
inductive SessionPhase where
  | initializing
  | anonymous
  | authenticated
  deriving DecidableEq, Repr

def SessionPhase.name : SessionPhase → String
  | .initializing => "Initializing"
  | .anonymous => "Anonymous"
  | .authenticated => "Authenticated"

/-- What is known about the session. -/
inductive SessionState where
  | initializing
  | anonymous
  | authenticated (identity token : String)
  deriving DecidableEq, Repr

namespace SessionState

def phase : SessionState → SessionPhase
  | .initializing => .initializing
  | .anonymous => .anonymous
  | .authenticated _ _ => .authenticated

def isAuthenticated : SessionState → Bool
  | .authenticated _ _ => true
  | _ => false

def isResolving : SessionState → Bool
  | .initializing => true
  | _ => false

def identity? : SessionState → Option String
  | .authenticated identity _ => some identity
  | _ => none

def token? : SessionState → Option String
  | .authenticated _ token => some token
  | _ => none

end SessionState

end DashboardClient
