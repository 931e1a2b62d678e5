import DashboardClient.ApiError

/-!
# Errors of session operations

Why a login, a logout, a token refresh or the startup probe failed. An error that wraps
a backend error is retryable exactly when that one is.
-/

namespace DashboardClient

/-- Why a session operation failed. -/
inductive AuthError where
  | invalidCredentials
  | missingCredentials
  | notAuthenticated
  | initialization (error : ApiError)
  | api (error : ApiError)
  deriving DecidableEq, Repr

namespace AuthError

def message : AuthError → String
  | .invalidCredentials => "invalid credentials"
  | .missingCredentials => "identity and secret are required"
  | .notAuthenticated => "not authenticated"
  | .initialization e => "session initialization failed: " ++ e.message
  | .api e => e.message

def code : AuthError → String
  | .invalidCredentials => "E_INVALID_CREDENTIALS"
  | .missingCredentials => "E_MISSING_CREDENTIALS"
  | .notAuthenticated => "E_NOT_AUTHENTICATED"
  | .initialization _ => "E_SESSION_INIT"
  | .api e => e.code

def retryable : AuthError → Bool
  | .initialization e => e.retryable
  | .api e => e.retryable
  | _ => false

end AuthError

end DashboardClient
