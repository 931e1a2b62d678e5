import DashboardClient.Proofs.Http.Requests

/-!
# What becomes of a response

A response is read in two ways: with its body, or by its status alone. As long as the body is whole,
the second way is the first one with a reader that takes any text, so one classification covers
every call. It looks at the status first: no page that comes with an error is taken for an answer,
however well it would decode.
-/

namespace DashboardClient

variable {α : Type}

-- ---------------------------------------------------------------------------
-- One response
-- ---------------------------------------------------------------------------

namespace HttpResponse

variable {r : HttpResponse} {decode? : String → Option α}

/-- The class of successes is a range. -/
theorem isSuccess_iff (r : HttpResponse) :
    r.isSuccess = true ↔ 200 ≤ r.status ∧ r.status ≤ 299 := by
  rw [isSuccess, beq_iff_eq]
  omega

/-- A call that reads the body with `decode?` has the outcome that it should have. -/
structure IsClassified (r : HttpResponse) (decode? : String → Option α)
    (outcome : Except ApiError α) : Prop where
  success : ∀ value, outcome = .ok value ↔
    (200 ≤ r.status ∧ r.status ≤ 299) ∧ decode? (Text.ofUtf8Lossy r.body) = some value
  unauthorized : r.status = 401 → outcome = .error .unauthorized
  refused : ¬(200 ≤ r.status ∧ r.status ≤ 299) → r.status ≠ 401 →
    outcome = .error (.status r.status (Text.ofUtf8Lossy r.body))
  unreadable : 200 ≤ r.status ∧ r.status ≤ 299 → decode? (Text.ofUtf8Lossy r.body) = none →
    ∃ reason, outcome = .error (.parse reason)

theorem decode_of_success (whole : r.isWhole = true)
    (range : 200 ≤ r.status ∧ r.status ≤ 299) :
    r.decode decode? = match decode? (Text.ofUtf8Lossy r.body) with
      | some value => .ok value
      | none => .error (.parse "the body has another form") := by
  have hrange : 200 ≤ r.status ∧ r.status < 300 := ⟨range.1, Nat.lt_succ_of_le range.2⟩
  simp only [decode, text?, whole, if_true, hrange]
  rfl

theorem decode_of_refusal (whole : r.isWhole = true)
    (range : ¬(200 ≤ r.status ∧ r.status ≤ 299)) :
    r.decode decode? = .error (ApiError.ofStatus r.status (Text.ofUtf8Lossy r.body)) := by
  have hrange : ¬(200 ≤ r.status ∧ r.status < 300) := fun h => range ⟨h.1, Nat.le_of_lt_succ h.2⟩
  simp only [decode, text?, whole, if_true, hrange, if_false]

theorem isClassified_decode (whole : r.isWhole = true) :
    r.IsClassified decode? (r.decode decode?) := by
  constructor
  case success =>
    intro value
    by_cases range : 200 ≤ r.status ∧ r.status ≤ 299
    · rw [decode_of_success whole range]
      cases decode? (Text.ofUtf8Lossy r.body) <;> simp [range]
    · rw [decode_of_refusal whole range]
      simp [range]
  case unauthorized =>
    intro status
    have range : ¬(200 ≤ r.status ∧ r.status ≤ 299) := by omega
    rw [decode_of_refusal whole range, ApiError.ofStatus, if_pos status]
  case refused =>
    intro range status
    rw [decode_of_refusal whole range, ApiError.ofStatus, if_neg status]
  case unreadable =>
    intro range none
    exact ⟨_, by rw [decode_of_success whole range, none]⟩

theorem acknowledge_of_success (range : 200 ≤ r.status ∧ r.status ≤ 299) :
    r.acknowledge = .ok () := by
  rw [acknowledge, if_pos (r.isSuccess_iff.2 range)]

/-- With a whole body, looking at the status alone is the same as taking any text. -/
theorem acknowledge_eq_decode (whole : r.isWhole = true) :
    r.acknowledge = r.decode fun _ => some () := by
  by_cases range : 200 ≤ r.status ∧ r.status ≤ 299
  · rw [acknowledge_of_success range, decode_of_success whole range]
  · rw [decode_of_refusal whole range, acknowledge, if_neg (r.isSuccess_iff.not.2 range), text?,
      whole]
    rfl

end HttpResponse


-- ---------------------------------------------------------------------------
-- Calls and retrievals
-- ---------------------------------------------------------------------------

namespace Connection

variable {c : Connection} {r : HttpResponse} {path : String}

/-- The next request that is sent is answered with this response. -/
def WillAnswer (c : Connection) (r : HttpResponse) : Prop :=
  c.server.isReachable = true ∧ c.server.replies.head? = some (.respond r)

/-- A request that can be sent gets the response that is next. -/
theorem send_fst (answers : c.WillAnswer r) (sendable : c.client.canSendTo path = true)
    {method : HttpMethod} {headers : List (String × String)} {body : String}
    (legal : headers.all (isHeaderText ·.2) = true) :
    (c.send method path headers body).1 = .ok r := by
  obtain ⟨hreachable, hnext⟩ := answers
  obtain ⟨rest, hreplies⟩ := List.head?_eq_some_iff.1 hnext
  unfold HttpClient.canSendTo at sendable
  unfold send
  cases haddress : Address.ofText? (c.client.url path) with
  | none => simp [haddress] at sendable
  | some address =>
    have hsendable : address.isSendable = true := by simpa [haddress] using sendable
    simp [Option.filter, legal, hsendable, Server.receive, hreachable, hreplies]

theorem get_fst (answers : c.WillAnswer r) (sendable : c.client.canSendTo path = true)
    (decode? : String → Option α) : (c.get decode? path).1 = r.decode decode? := by
  have legal : ([] : List (String × String)).all (isHeaderText ·.2) = true := rfl
  simp only [get, send_fst answers sendable legal]
  rfl

theorem post_fst (answers : c.WillAnswer r) (sendable : c.client.canSendTo path = true)
    (decode? : String → Option α) (body : String) :
    (c.post decode? path body none).1 = r.decode decode? := by
  have legal : ((contentTypeHeader, "application/json") :: antiForgeryHeaders none).all
      (isHeaderText ·.2) = true := by decide
  simp only [post, send_fst answers sendable legal]
  rfl

theorem probe_fst (answers : c.WillAnswer r)
    (sendable : c.client.canSendTo AuthEndpoint.session = true) :
    c.probe.1 = r.decode Wire.IdentityReply.decode? :=
  get_fst answers sendable Wire.IdentityReply.decode?

theorem fetchToken_fst (answers : c.WillAnswer r)
    (sendable : c.client.canSendTo AuthEndpoint.token = true) :
    c.fetchToken.1 = r.decode Wire.TokenReply.decode? :=
  get_fst answers sendable Wire.TokenReply.decode?

theorem login_fst (answers : c.WillAnswer r)
    (sendable : c.client.canSendTo AuthEndpoint.login = true) (request : Wire.LoginRequest) :
    (c.login request).1 = r.decode Wire.LoginReply.decode? :=
  post_fst answers sendable Wire.LoginReply.decode? request.encode

theorem logout_fst (answers : c.WillAnswer r)
    (sendable : c.client.canSendTo AuthEndpoint.logout = true) {token : Option String}
    (legal : token.all isHeaderText = true) : (c.logout token).1 = r.acknowledge := by
  simp only [logout, send_fst answers sendable ((antiForgeryHeaders_all token).trans legal)]
  rfl

/-- Whatever response a call gets, with any status and any bytes behind its head: the outcome is a
success exactly if the status is in the 200s and the body, which a logout does not look at, decodes;
it then carries what was decoded. A 401 gives `unauthorized` and any other status outside of the
200s gives that status and the body, without a look at what the body would decode to; and a body in
the 200s that does not decode gives a parse error. The body of a response that has none is empty.
Both tests for the 200s agree, the backend call hands on the outcome as it is, and the error of a
retrieval is the same one wrapped. -/
theorem responses_are_classified (c : Connection) (r : HttpResponse) (answers : c.WillAnswer r) :
    (r.isSuccess = true ↔ 200 ≤ r.status ∧ r.status ≤ 299) ∧
    (r.isWhole = true →
      (c.client.canSendTo AuthEndpoint.session = true →
        r.IsClassified Wire.IdentityReply.decode? c.probe.1 ∧
        (c.call .probe).1 = replyOf (.identity ·.identity) c.probe.1) ∧
      (c.client.canSendTo AuthEndpoint.token = true →
        r.IsClassified Wire.TokenReply.decode? c.fetchToken.1 ∧
        (c.call .token).1 = replyOf (.token ·.token) c.fetchToken.1) ∧
      (c.client.canSendTo AuthEndpoint.login = true → ∀ identity secret,
        r.IsClassified Wire.LoginReply.decode? (c.login ⟨identity, secret⟩).1 ∧
        (c.call (.login identity secret)).1 = replyOf .login (c.login ⟨identity, secret⟩).1) ∧
      (c.client.canSendTo AuthEndpoint.logout = true → ∀ token, token.all isHeaderText = true →
        r.IsClassified (fun _ => some ()) (c.logout token).1 ∧
        (c.call (.logout token)).1 = replyOf (fun _ => .loggedOut) (c.logout token).1) ∧
      (∀ path, c.client.canSendTo path = true → ∀ {α : Type} (decode? : String → Option α),
        r.IsClassified decode? (c.get decode? path).1 ∧
        (c.retrieve decode? path).1 = (c.get decode? path).1.mapError .api)) ∧
    -- A logout in the 200s does not need a body that can be read.
    (c.client.canSendTo AuthEndpoint.logout = true → ∀ token, token.all isHeaderText = true →
      200 ≤ r.status ∧ r.status ≤ 299 → (c.logout token).1 = .ok ()) := by
  refine ⟨r.isSuccess_iff, fun whole => ⟨?probe, ?token, ?login, ?logout, ?retrieve⟩, ?unread⟩
  case probe =>
    intro sendable
    refine ⟨?_, by simp only [call]⟩
    rw [probe_fst answers sendable]
    exact HttpResponse.isClassified_decode whole
  case token =>
    intro sendable
    refine ⟨?_, by simp only [call]⟩
    rw [fetchToken_fst answers sendable]
    exact HttpResponse.isClassified_decode whole
  case login =>
    intro sendable identity secret
    refine ⟨?_, by simp only [call]⟩
    rw [login_fst answers sendable]
    exact HttpResponse.isClassified_decode whole
  case logout =>
    intro sendable token legal
    refine ⟨?_, by simp only [call]⟩
    rw [logout_fst answers sendable legal, HttpResponse.acknowledge_eq_decode whole]
    exact HttpResponse.isClassified_decode whole
  case retrieve =>
    intro path sendable α decode?
    refine ⟨?_, by simp only [Connection.retrieve]⟩
    rw [get_fst answers sendable decode?]
    exact HttpResponse.isClassified_decode whole
  case unread =>
    intro sendable token legal range
    rw [logout_fst answers sendable legal, HttpResponse.acknowledge_of_success range]

/-- A page with an identity is one of a session only if the status says so, and is no token. Behind
the head of a 204 or a 304 it is no body at all. -/
theorem responses_classified_of_identity_page :
    let page := "\x7b\"identity\":\"ann\"\x7d"
    let sent := page.toUTF8.toList
    let client : HttpClient := { baseUrl := "http://h" }
    let answered (r : HttpResponse) : Connection :=
      { client, server := { replies := [.respond r] } }
    (answered { status := 200, sent }).probe.1 = .ok ⟨"ann"⟩ ∧
      (∃ reason, (answered { status := 200, sent }).fetchToken.1 = .error (.parse reason)) ∧
      ((answered { status := 403, sent }).login ⟨"ann", "s"⟩).1 = .error (.status 403 page) ∧
      ((answered { status := 401, sent }).logout none).1 = .error .unauthorized ∧
      ((answered { status := 503, sent }).retrieve Wire.IdentityReply.decode? "/api/status").1 =
        .error (.api (.status 503 page)) ∧
      (∃ reason, (answered { status := 204, sent }).probe.1 = .error (.parse reason)) ∧
      ((answered { status := 304, sent }).login ⟨"ann", "s"⟩).1 =
        .error (.status 304 "") ∧
      ((answered { status := 204, sent }).logout (some "t")).1 = .ok () := by
  intro page sent client answered
  have hpage : Text.ofUtf8Lossy sent = page := by decide +kernel
  have hall (r : HttpResponse) := responses_are_classified (answered r) r ⟨rfl, rfl⟩
  obtain ⟨hprobe, htoken, _, _, _⟩ := (hall { status := 200, sent }).2.1 rfl
  obtain ⟨_, _, hlogin, _, _⟩ := (hall { status := 403, sent }).2.1 rfl
  obtain ⟨_, _, _, hlogout, _⟩ := (hall { status := 401, sent }).2.1 rfl
  obtain ⟨_, _, _, _, hretrieve⟩ := (hall { status := 503, sent }).2.1 rfl
  obtain ⟨hnothing, _, _, _, _⟩ := (hall { status := 204, sent }).2.1 rfl
  obtain ⟨_, _, hsame, _, _⟩ := (hall { status := 304, sent }).2.1 rfl
  refine ⟨?_, ?_, ?_, ?_, ?_, ?_, ?_, ?_⟩
  · exact ((hprobe (by decide +kernel)).1.success ⟨"ann"⟩).2 ⟨by decide, by decide +kernel⟩
  · exact (htoken (by decide +kernel)).1.unreadable (by decide) (by decide +kernel)
  · have hrefused := (hlogin (by decide +kernel) "ann" "s").1.refused (by decide) (by decide)
    exact hpage ▸ hrefused
  · exact (hlogout (by decide +kernel) none rfl).1.unauthorized rfl
  · obtain ⟨hclassified, hwrapped⟩ :=
      hretrieve "/api/status" (by decide +kernel) Wire.IdentityReply.decode?
    rw [hwrapped, hclassified.refused (by decide) (by decide)]
    show Except.error (RetrievalError.api (.status 503 (Text.ofUtf8Lossy sent))) = _
    rw [hpage]
  · exact (hnothing (by decide +kernel)).1.unreadable (by decide) (by decide +kernel)
  · exact (hsame (by decide +kernel) "ann" "s").1.refused (by decide) (by decide)
  · exact (hall { status := 204, sent }).2.2 (by decide +kernel) (some "t") (by decide) (by decide)

end Connection

end DashboardClient
