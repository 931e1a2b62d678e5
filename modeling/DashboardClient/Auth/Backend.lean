import DashboardClient.ApiError
import DashboardClient.Wire

/-!
# Backend calls

The four calls that sessions depend on, what a backend may answer and when the answer
arrives.
-/

namespace DashboardClient

/-- A call to the backend. -/
inductive BackendCall where
  | probe
  | token
  | login (identity secret : String)
  | logout (token : Option String)
  deriving DecidableEq

/-- What the backend answers to a call: the identity of the session, a fresh token, the
session a login opened, the end of a session, or an error. -/
inductive BackendReply where
  | identity (identity : String)
  | token (token : String)
  | login (reply : Wire.LoginReply)
  | loggedOut
  | failed (error : ApiError)
  deriving DecidableEq, Repr

/-- The kinds of backend calls. -/
inductive BackendCallKind where
  | probe
  | token
  | login
  | logout
  deriving DecidableEq, Repr

def BackendCall.kind : BackendCall → BackendCallKind
  | .probe => .probe
  | .token => .token
  | .login _ _ => .login
  | .logout _ => .logout

/-- When a reply arrives: without a wait, after some time, or never. -/
inductive ReplyDelay where
  | immediate
  | after (nanos : Nat)
  | never
  deriving DecidableEq, Repr

/-- A backend with states of type `σ` takes a call and says what it replies and when. -/
class Backend (σ : Type) where
  serve : σ → BackendCall → (ReplyDelay × BackendReply) × σ

end DashboardClient
