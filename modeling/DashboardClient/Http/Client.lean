import DashboardClient.Config
import DashboardClient.Http.Cookies

/-!
# HTTP clients

A client of one origin. It knows the base of every address and keeps the cookies.
-/

namespace DashboardClient

/-- A client of one origin. -/
structure HttpClient where
  baseUrl : String
  timeouts : Timeouts := {}
  cookies : CookieJar := []
  deriving Repr

namespace HttpClient

/-- A client of an origin, which loses the slashes at its end. -/
def ofOrigin (origin : String) (timeouts : Timeouts) : Except ApiError HttpClient :=
  if hasHttpScheme origin then .ok { baseUrl := Text.trimEndOf '/' origin, timeouts }
  else .error (.invalidBaseUrl origin)

/-- The client that a configuration asks for. -/
def ofConfig (config : Config) : Except ApiError HttpClient :=
  ofOrigin config.baseUrl config.timeouts

/-- The address of a path, with one slash after the base. -/
def url (c : HttpClient) (path : String) : String :=
  if path.toList.head? = some '/' then c.baseUrl ++ path else c.baseUrl ++ "/" ++ path

/-- Do what a response says about cookies. -/
def receive (c : HttpClient) (r : HttpResponse) : HttpClient :=
  { c with cookies := c.cookies.receive r }

end HttpClient

end DashboardClient
