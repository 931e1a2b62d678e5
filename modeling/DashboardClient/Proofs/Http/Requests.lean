import DashboardClient.Proofs.Http.Targets

/-!
# What a connection sends

A connection is used for retrievals and for the calls of a gateway. Each use is one request or
none. Its purpose says what the request asks for, the base of the client stays, and the request is
sent whenever the address and the headers allow it.
-/

namespace DashboardClient

-- ---------------------------------------------------------------------------
-- Purposes
-- ---------------------------------------------------------------------------

/-- What a connection is used for. -/
inductive Purpose where
  | retrieval (path : String)
  | call (asked : BackendCall)
  deriving DecidableEq

namespace BackendCall

def method : BackendCall → HttpMethod
  | .probe => .get
  | .token => .get
  | .login _ _ => .post
  | .logout _ => .post

def path : BackendCall → String
  | .probe => AuthEndpoint.session
  | .token => AuthEndpoint.token
  | .login _ _ => AuthEndpoint.login
  | .logout _ => AuthEndpoint.logout

def headers : BackendCall → List (String × String)
  | .probe => []
  | .token => []
  | .login _ _ => [(contentTypeHeader, "application/json")]
  | .logout given => antiForgeryHeaders given

def body : BackendCall → String
  | .login identity secret => Wire.LoginRequest.encode { identity, secret }
  | _ => ""

/-- Each path ends with a word of its own. -/
theorem exists_isPlain (asked : BackendCall) :
    ∃ word, Address.IsPlain word ∧ asked.path.toList = Address.endpointFront ++ word.toList := by
  cases asked with
  | probe => exact ⟨"session", by constructor <;> decide, rfl⟩
  | token => exact ⟨"csrf", by constructor <;> decide, rfl⟩
  | login =>
    have hpath : AuthEndpoint.login.toList = Address.endpointFront ++ "login".toList := rfl
    exact ⟨"login", HttpClient.isPlain_login, hpath⟩
  | logout =>
    have hpath : AuthEndpoint.logout.toList = Address.endpointFront ++ "logout".toList := rfl
    exact ⟨"logout", HttpClient.isPlain_logout, hpath⟩

end BackendCall

namespace Purpose

def method : Purpose → HttpMethod
  | .retrieval _ => .get
  | .call asked => asked.method

def path : Purpose → String
  | .retrieval path => path
  | .call asked => asked.path

def headers : Purpose → List (String × String)
  | .retrieval _ => []
  | .call asked => asked.headers

def body : Purpose → String
  | .retrieval _ => ""
  | .call asked => asked.body

/-- The call of a gateway that is behind a request. -/
def call? : Purpose → Option BackendCall
  | .retrieval _ => none
  | .call asked => some asked

end Purpose

namespace HttpClient

/-- The request that the client makes for a purpose, if the address can be read. -/
def requestFor? (client : HttpClient) (purpose : Purpose) : Option HttpRequest :=
  (client.target? purpose.path).map fun target =>
    { method := purpose.method, target, headers := purpose.headers, cookies := client.cookies
      body := purpose.body }

/-- Requests can be sent to the path. -/
def canSendTo (client : HttpClient) (path : String) : Bool :=
  (Address.ofText? (client.url path)).any (·.isSendable)

/-- Requests for the purpose can be sent. -/
def canSendFor (client : HttpClient) (purpose : Purpose) : Bool :=
  client.canSendTo purpose.path && purpose.headers.all (isHeaderText ·.2)

end HttpClient

/-- A connection after it was used. -/
def Connection.use (c : Connection) (purpose : Purpose) : Connection :=
  (c.send purpose.method purpose.path purpose.headers purpose.body).2


-- ---------------------------------------------------------------------------
-- One request
-- ---------------------------------------------------------------------------

namespace Server

theorem receive_isReachable (s : Server) (r : HttpRequest) :
    (s.receive r).2.isReachable = s.isReachable := by
  unfold receive
  split
  · split <;> rfl
  · rfl

theorem receive_received (s : Server) (r : HttpRequest) :
    (s.receive r).2.received = if s.isReachable then r :: s.received else s.received := by
  unfold receive
  split
  · split <;> rfl
  · rfl

end Server

namespace Connection

variable (c : Connection) (purpose : Purpose)

/-- A request is kept back and changes nothing, or the server receives it. -/
theorem use_cases :
    (c.client.canSendFor purpose = false ∧ c.use purpose = c) ∨
    (c.client.canSendFor purpose = true ∧
      (c.use purpose).client.baseUrl = c.client.baseUrl ∧
      ∃ r, c.client.requestFor? purpose = some r ∧
        (c.use purpose).server = (c.server.receive r).2) := by
  unfold use send HttpClient.canSendFor HttpClient.canSendTo HttpClient.requestFor?
    HttpClient.target?
  cases haddress : Address.ofText? (c.client.url purpose.path) with
  | none => exact Or.inl ⟨rfl, rfl⟩
  | some address =>
    cases hheaders : purpose.headers.all (isHeaderText ·.2) with
    | false => exact Or.inl ⟨Bool.and_false _, by simp [Option.filter]⟩
    | true =>
      cases hsendable : address.isSendable with
      | false => exact Or.inl ⟨by simp [hsendable], by simp [Option.filter, hsendable]⟩
      | true =>
        refine Or.inr ⟨by simp [hsendable], ?_⟩
        simp only [Option.filter, if_true, hsendable, Bool.not_true, Bool.false_eq_true, if_false]
        split
        · next hreply => exact ⟨rfl, _, rfl, by rw [hreply]⟩
        · next hreply => exact ⟨rfl, _, rfl, by rw [hreply]⟩

theorem use_baseUrl : (c.use purpose).client.baseUrl = c.client.baseUrl := by
  rcases use_cases c purpose with ⟨_, hsame⟩ | ⟨_, hbase, _⟩
  · rw [hsame]
  · exact hbase

theorem use_isReachable : (c.use purpose).server.isReachable = c.server.isReachable := by
  rcases use_cases c purpose with ⟨_, hsame⟩ | ⟨_, _, r, _, hserver⟩
  · rw [hsame]
  · rw [hserver, Server.receive_isReachable]

/-- The server receives nothing, or the request for the purpose. -/
theorem received_use_cases :
    (c.use purpose).server.received = c.server.received ∨
    ∃ r, c.client.requestFor? purpose = some r ∧
      (c.use purpose).server.received = r :: c.server.received := by
  rcases use_cases c purpose with ⟨_, hsame⟩ | ⟨_, _, r, hr, hserver⟩
  · exact Or.inl (by rw [hsame])
  · rw [hserver, Server.receive_received]
    split
    · exact Or.inr ⟨r, hr, rfl⟩
    · exact Or.inl rfl

/-- A server that can be reached receives what can be sent. -/
theorem received_use {c : Connection} {purpose : Purpose} (reachable : c.server.isReachable = true)
    (sendable : c.client.canSendFor purpose = true) :
    ∃ r, c.client.requestFor? purpose = some r ∧
      (c.use purpose).server.received = r :: c.server.received := by
  rcases use_cases c purpose with ⟨hkept, _⟩ | ⟨_, _, r, hr, hserver⟩
  · rw [sendable] at hkept
    cases hkept
  · exact ⟨r, hr, by rw [hserver, Server.receive_received, if_pos reachable]⟩

end Connection


-- ---------------------------------------------------------------------------
-- Backend calls and retrievals
-- ---------------------------------------------------------------------------

namespace Connection

/-- A backend call is one request. -/
theorem serve_snd (c : Connection) (call : BackendCall) :
    (Backend.serve c call).2 = c.use (.call call) := by
  show (c.call call).2 = (c.send call.method call.path call.headers call.body).2
  cases call with
  | probe => simp only [Connection.call, probe, get]; rfl
  | token => simp only [Connection.call, fetchToken, get]; rfl
  | login identity secret => simp only [Connection.call, login, post]; rfl
  | logout token => simp only [Connection.call, logout]; rfl

/-- A retrieval is one request. -/
theorem retrieve_snd {α : Type} (c : Connection) (decode? : String → Option α) (path : String) :
    (c.retrieve decode? path).2 = c.use (.retrieval path) := by
  show (c.retrieve decode? path).2 = (c.send .get path [] "").2
  simp only [retrieve, get]

end Connection


-- ---------------------------------------------------------------------------
-- Tokens in headers
-- ---------------------------------------------------------------------------

/-- The header holds exactly the token that is given. -/
theorem lookup_antiForgeryHeaders (token : Option String) :
    (antiForgeryHeaders token).lookup antiForgeryHeader = token := by
  cases token with
  | none => rfl
  | some token => simp [antiForgeryHeaders]

theorem antiForgeryHeaders_all (token : Option String) :
    (antiForgeryHeaders token).all (isHeaderText ·.2) = token.all isHeaderText := by
  cases token <;> simp [antiForgeryHeaders]

end DashboardClient
