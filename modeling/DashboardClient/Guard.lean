import DashboardClient.Config
import DashboardClient.Session.State

/-!
# Route guards

What a view does before it renders, decided from the session state alone. While the
session is being resolved nothing is decided.
-/

namespace DashboardClient

/-- What a guarded view does. -/
inductive GuardOutcome where
  | placeholder
  | render
  | redirect (target : String) (replace : Bool)
  deriving DecidableEq, Repr

/-- Which guard a route sits behind. -/
inductive RouteKind where
  | protectedRoute
  | publicRoute
  deriving DecidableEq, Repr

/-- Where the guards send a visitor. -/
structure RouteGuard where
  loginPath : String := "/login"
  homePath : String := "/"
  deriving DecidableEq, Repr

namespace RouteGuard

def ofConfig (config : Config) : RouteGuard :=
  { loginPath := config.loginPath, homePath := config.homePath }

/-- Views that need a session: an anonymous visitor is sent to the login. The history
entry is replaced, so that going back does not land on the guarded view again. -/
def forProtected (guard : RouteGuard) (state : SessionState) : GuardOutcome :=
  match state.phase with
  | .initializing => .placeholder
  | .anonymous => .redirect guard.loginPath true
  | .authenticated => .render

/-- Views for anonymous visitors only: a signed-in visitor is sent home. -/
def forPublic (guard : RouteGuard) (state : SessionState) : GuardOutcome :=
  match state.phase with
  | .initializing => .placeholder
  | .anonymous => .render
  | .authenticated => .redirect guard.homePath true

def evaluate (guard : RouteGuard) (kind : RouteKind) (state : SessionState) : GuardOutcome :=
  match kind with
  | .protectedRoute => guard.forProtected state
  | .publicRoute => guard.forPublic state

end RouteGuard

/-- A protected view has to leave for the login now. -/
def shouldRedirectUnauthenticated (state : SessionState) : Bool :=
  state.phase == .anonymous

end DashboardClient
