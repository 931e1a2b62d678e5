import DashboardClient.ApiError
import DashboardClient.Text.Utf8

/-!
# HTTP messages

What is sent to a server and what comes back. A response is a success if its status is
in the 200s. The body is text in UTF-8, read leniently; it cannot be read at all if the
connection closed before it was complete. A few responses end with their head and have an
empty body, whatever the server sends behind it.
-/

namespace DashboardClient

-- ---------------------------------------------------------------------------
-- Requests
-- ---------------------------------------------------------------------------

inductive HttpMethod where
  | get
  | post
  deriving DecidableEq, Repr

def HttpMethod.name : HttpMethod → String
  | .get => "GET"
  | .post => "POST"

/-- A named text that the client keeps for the server. -/
structure Cookie where
  name : String
  value : String
  deriving DecidableEq, Repr

def Cookie.render (c : Cookie) : String :=
  c.name ++ "=" ++ c.value

/-- A request as the server sees it. -/
structure HttpRequest where
  method : HttpMethod
  target : String
  headers : List (String × String) := []
  cookies : List Cookie := []
  body : String := ""
  deriving DecidableEq, Repr

/-- The header that carries the anti-forgery token. -/
def antiForgeryHeader : String := "X-CSRF-Token"

/-- The header that says what the body is. -/
def contentTypeHeader : String := "Content-Type"

/-- The headers for a token, if there is one. -/
def antiForgeryHeaders (token : Option String) : List (String × String) :=
  token.toList.map (antiForgeryHeader, ·)

namespace HttpRequest

def header? (r : HttpRequest) (name : String) : Option String :=
  r.headers.lookup name

/-- The anti-forgery token that the request carries. -/
def antiForgeryToken? (r : HttpRequest) : Option String :=
  r.header? antiForgeryHeader

end HttpRequest

/-- A header holds any text without control characters other than the tab. -/
def isHeaderText (s : String) : Bool :=
  s.toList.all fun c => c == '\t' || (0x20 ≤ c.toNat && c.toNat != 0x7F)


-- ---------------------------------------------------------------------------
-- Responses
-- ---------------------------------------------------------------------------

/-- A status with which a server can answer. It has three digits, and below 200 all but one
only announce the answer. -/
def isFinalStatus (status : Nat) : Bool :=
  status == 101 || (200 ≤ status && status ≤ 999)

/-- What a server answers: the status, the bytes that it sends behind the head, and whether
it closes the connection before it has sent them all. No answer sends the client elsewhere. -/
structure HttpResponse where
  status : Nat
  isFinal : isFinalStatus status = true := by decide
  sent : List UInt8 := []
  isTruncated : Bool := false
  setCookies : List String := []
  deriving DecidableEq, Repr

namespace HttpResponse

/-- The response ends with its head: it switches protocols, has no content or says that
nothing was modified. -/
def isBodiless (r : HttpResponse) : Bool :=
  r.status == 101 || r.status == 204 || r.status == 304

/-- The bytes of the body. -/
def body (r : HttpResponse) : List UInt8 :=
  if r.isBodiless then [] else r.sent

/-- The body arrives to its end. -/
def isWhole (r : HttpResponse) : Bool :=
  r.isBodiless || !r.isTruncated

/-- The status is of the class of successes. -/
def isSuccess (r : HttpResponse) : Bool :=
  r.status / 100 == 2

/-- The whole body as text. -/
def text? (r : HttpResponse) : Option String :=
  if r.isWhole then some (Text.ofUtf8Lossy r.body) else none

/-- Read the body with `decode?`, if the status is a success. Without a whole body the
status does not count. -/
def decode {α : Type} (decode? : String → Option α) (r : HttpResponse) : Except ApiError α :=
  match r.text? with
  | none => .error (.request "error decoding response body")
  | some text =>
    if 200 ≤ r.status ∧ r.status < 300 then
      match decode? text with
      | some value => .ok value
      | none => .error (.parse "the body has another form")
    else .error (ApiError.ofStatus r.status text)

/-- Look at the status alone. A body that cannot be read counts as empty, and that of a
success is never read. -/
def acknowledge (r : HttpResponse) : Except ApiError Unit :=
  if r.isSuccess then .ok () else .error (ApiError.ofStatus r.status (r.text?.getD ""))

end HttpResponse

end DashboardClient
