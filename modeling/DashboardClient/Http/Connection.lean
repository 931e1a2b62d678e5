import DashboardClient.Auth.Backend
import DashboardClient.Http.Address
import DashboardClient.Http.Client
import DashboardClient.Http.Server
import DashboardClient.Json.Value
import DashboardClient.Polling.Options

/-!
# Connections

A client and the server it talks to, as the backend of sessions and of retrievals. An
anti-forgery token goes into a header, and a token that no header can hold keeps the
request from being sent.
-/

namespace DashboardClient

/-- A client and the server it talks to. -/
structure Connection where
  client : HttpClient
  server : Server
  deriving Repr

-- The paths of the auth endpoints.
namespace AuthEndpoint

def session : String := "/api/auth/session"

def token : String := "/api/auth/csrf"

def login : String := "/api/auth/login"

def logout : String := "/api/auth/logout"

end AuthEndpoint

namespace Connection

variable {α : Type}

-- ---------------------------------------------------------------------------
-- Requests
-- ---------------------------------------------------------------------------

/-- Send a request to a path and wait for the response. What is no address or cannot be a
header is never sent. -/
def send (c : Connection) (method : HttpMethod) (path : String)
    (headers : List (String × String)) (body : String) :
    Except ApiError HttpResponse × Connection :=
  match (Address.ofText? (c.client.url path)).filter fun _ => headers.all (isHeaderText ·.2) with
  | none => (.error (.request "builder error"), c)
  | some address =>
    let forUrl (what : String) := ApiError.request (what ++ " for url (" ++ address.render ++ ")")
    if !address.isSendable then (.error (forUrl "builder error"), c)
    else match c.server.receive {
        method, target := address.target, headers, cookies := c.client.cookies, body }
      with
    | (some response, server) => (.ok response, { client := c.client.receive response, server })
    | (none, server) => (.error (forUrl "error sending request"), { c with server })

/-- Read what is at a path. -/
def get (c : Connection) (decode? : String → Option α) (path : String) :
    Except ApiError α × Connection :=
  let (response, c) := c.send .get path [] ""
  (response.bind (·.decode decode?), c)

/-- Post a JSON text to a path and read the answer. -/
def post (c : Connection) (decode? : String → Option α) (path body : String)
    (token : Option String) : Except ApiError α × Connection :=
  let (response, c) :=
    c.send .post path ((contentTypeHeader, "application/json") :: antiForgeryHeaders token) body
  (response.bind (·.decode decode?), c)


-- ---------------------------------------------------------------------------
-- Sessions
-- ---------------------------------------------------------------------------

/-- Ask for the identity of the session. -/
def probe (c : Connection) : Except ApiError Wire.IdentityReply × Connection :=
  c.get Wire.IdentityReply.decode? AuthEndpoint.session

/-- Fetch a fresh anti-forgery token. -/
def fetchToken (c : Connection) : Except ApiError Wire.TokenReply × Connection :=
  c.get Wire.TokenReply.decode? AuthEndpoint.token

/-- Exchange credentials for a session. -/
def login (c : Connection) (request : Wire.LoginRequest) :
    Except ApiError Wire.LoginReply × Connection :=
  c.post Wire.LoginReply.decode? AuthEndpoint.login request.encode none

/-- End the session. -/
def logout (c : Connection) (token : Option String) : Except ApiError Unit × Connection :=
  let (response, c) := c.send .post AuthEndpoint.logout (antiForgeryHeaders token) ""
  (response.bind (·.acknowledge), c)

/-- What a backend call comes to. -/
def replyOf (f : α → BackendReply) : Except ApiError α → BackendReply
  | .ok value => f value
  | .error e => .failed e

/-- Make a backend call. -/
def call (c : Connection) : BackendCall → BackendReply × Connection
  | .probe =>
    let (outcome, c) := c.probe
    (replyOf (.identity ·.identity) outcome, c)
  | .token =>
    let (outcome, c) := c.fetchToken
    (replyOf (.token ·.token) outcome, c)
  | .login identity secret =>
    let (outcome, c) := c.login { identity, secret }
    (replyOf .login outcome, c)
  | .logout token =>
    let (outcome, c) := c.logout token
    (replyOf (fun _ => .loggedOut) outcome, c)

/-- The server answers without a wait. -/
instance : Backend Connection where
  serve c call :=
    let (reply, c) := c.call call
    ((.immediate, reply), c)


-- ---------------------------------------------------------------------------
-- Retrievals
-- ---------------------------------------------------------------------------

/-- Retrieve what a path serves for a subscription. -/
def retrieve (c : Connection) (decode? : String → Option α) (path : String) :
    Except RetrievalError α × Connection :=
  let (outcome, c) := c.get decode? path
  (outcome.mapError .api, c)

end Connection

end DashboardClient
