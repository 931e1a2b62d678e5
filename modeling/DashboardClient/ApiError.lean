/-!
# Errors of backend calls

Every failure of a call to the dashboard backend. Each error has a message for people,
a code to search for, and says whether trying again may help.
-/

namespace DashboardClient

/-- Why a call to the backend failed. -/
inductive ApiError where
  | unauthorized
  | status (number : Nat) (body : String)
  | request (reason : String)
  | parse (reason : String)
  | clientBuild (reason : String)
  | invalidBaseUrl (url : String)
  deriving DecidableEq, Repr

namespace ApiError

/-- The error for an answer whose status is not a success. -/
def ofStatus (n : Nat) (body : String) : ApiError :=
  if n = 401 then .unauthorized else .status n body

/-- The backend refused the request itself (4xx). -/
def isClientError : ApiError → Bool
  | .unauthorized => true
  | .status n _ => 400 ≤ n && n ≤ 499
  | _ => false

/-- Trying again may help: the request did not get through, or the backend was
overloaded or broken. -/
def retryable : ApiError → Bool
  | .request _ => true
  | .status n _ => n == 429 || (500 ≤ n && n ≤ 599)
  | _ => false

def code : ApiError → String
  | .unauthorized => "E_UNAUTHORIZED"
  | .status _ _ => "E_STATUS"
  | .request _ => "E_REQUEST"
  | .parse _ => "E_PARSE"
  | .clientBuild _ => "E_HTTP_CLIENT_BUILD"
  | .invalidBaseUrl _ => "E_INVALID_BASE_URL"

def message : ApiError → String
  | .unauthorized => "unauthorized"
  | .status n _ => "request failed: status " ++ toString n
  | .request reason => "request failed: " ++ reason
  | .parse reason => "response parse failed: " ++ reason
  | .clientBuild reason => "HTTP client build failed: " ++ reason
  | .invalidBaseUrl url => "invalid base URL: " ++ url

end ApiError

end DashboardClient
