import DashboardClient.Proofs.Http.Shared

/-!
# Where the anti-forgery token goes

Each request that a server has received was sent for one purpose, in one step of a run on its
connection. Only a logout's request carries the token, and it is the token of the session as it
stands in that step: the one that was installed last. Unless the base has a fragment, a logout is
known by its target as well.
-/

namespace DashboardClient

-- ---------------------------------------------------------------------------
-- Requests with a token
-- ---------------------------------------------------------------------------

/-- The anti-forgery token that goes with a purpose. -/
def Purpose.token? : Purpose → Option String
  | .call (.logout given) => given
  | _ => none

theorem Purpose.exists_logout {purpose : Purpose} (h : purpose.token?.isSome) :
    ∃ given, purpose = .call (.logout given) := by
  match purpose, h with
  | .call (.logout given), _ => exact ⟨given, rfl⟩

theorem Purpose.login_or_logout {purpose : Purpose} (h : purpose.method = .post) :
    (∃ identity secret, purpose = .call (.login identity secret)) ∨
      ∃ given, purpose = .call (.logout given) := by
  match purpose, h with
  | .call (.login identity secret), _ => exact Or.inl ⟨identity, secret, rfl⟩
  | .call (.logout given), _ => exact Or.inr ⟨given, rfl⟩

theorem Purpose.lookup_headers (purpose : Purpose) :
    purpose.headers.lookup antiForgeryHeader = purpose.token? := by
  match purpose with
  | .retrieval _ => rfl
  | .call .probe => rfl
  | .call .token => rfl
  | .call (.login _ _) => rfl
  | .call (.logout given) => exact lookup_antiForgeryHeaders given

namespace HttpClient

section

variable {client client' : HttpClient}

theorem url_congr (h : client'.baseUrl = client.baseUrl) (path : String) :
    client'.url path = client.url path := by
  simp only [url, h]

theorem canSendTo_congr (h : client'.baseUrl = client.baseUrl) (path : String) :
    client'.canSendTo path = client.canSendTo path := by
  rw [canSendTo, canSendTo, url_congr h]

theorem target?_congr (h : client'.baseUrl = client.baseUrl) (path : String) :
    client'.target? path = client.target? path := by
  rw [target?, target?, url_congr h]

end

section

variable {client : HttpClient} {purpose : Purpose} {r : HttpRequest}
  (h : client.requestFor? purpose = some r)
include h

theorem method_of_requestFor? : r.method = purpose.method := by
  obtain ⟨target, -, rfl⟩ := Option.map_eq_some_iff.1 h
  rfl

theorem target_of_requestFor? : client.target? purpose.path = some r.target := by
  obtain ⟨target, htarget, rfl⟩ := Option.map_eq_some_iff.1 h
  exact htarget

/-- A request carries the token of its purpose, and no other. -/
theorem antiForgeryToken?_of_requestFor? : r.antiForgeryToken? = purpose.token? := by
  obtain ⟨target, -, rfl⟩ := Option.map_eq_some_iff.1 h
  exact purpose.lookup_headers

theorem token?_of_get (get : r.method = .get) : r.antiForgeryToken? = none := by
  rw [antiForgeryToken?_of_requestFor? h, ← Option.not_isSome_iff_eq_none]
  intro hsome
  obtain ⟨given, rfl⟩ := Purpose.exists_logout hsome
  cases get.symm.trans (method_of_requestFor? h)

/-- What is posted to the target of logouts is one, unless the base has a fragment. -/
theorem exists_logout_of_target (whole : '#' ∉ client.baseUrl.toList) (post : r.method = .post)
    (target : client.target? AuthEndpoint.logout = some r.target) :
    ∃ given, purpose = .call (.logout given) := by
  rcases Purpose.login_or_logout ((method_of_requestFor? h).symm.trans post) with
    ⟨identity, secret, rfl⟩ | hlogout
  · have hlogin := target_of_requestFor? h
    exact absurd target (target_login_ne_logout whole hlogin)
  · exact hlogout

/-- What goes to the target of logins has no token, unless the base has a fragment. -/
theorem token?_of_target_login (whole : '#' ∉ client.baseUrl.toList)
    (target : client.target? AuthEndpoint.login = some r.target) : r.antiForgeryToken? = none := by
  rw [antiForgeryToken?_of_requestFor? h, ← Option.not_isSome_iff_eq_none]
  intro hsome
  obtain ⟨given, rfl⟩ := Purpose.exists_logout hsome
  have hlogout := target_of_requestFor? h
  exact target_login_ne_logout whole target hlogout

end

end HttpClient


-- ---------------------------------------------------------------------------
-- Steps
-- ---------------------------------------------------------------------------

namespace AuthWorld

/-- A step sends a request for a purpose, and the server receives it. -/
structure Sends (w w' : AuthWorld Connection) (purpose : Purpose) (r : HttpRequest) : Prop where
  request : w.backend.client.requestFor? purpose = some r
  received : w'.backend.server.received = r :: w.backend.server.received
  calls : w'.calls = purpose.call?.toList ++ w.calls
  current : ∀ given, purpose = .call (.logout given) → given = w'.session.token?

namespace Uses

variable {w w' : AuthWorld Connection}

/-- A step sends nothing, or one request for one purpose. -/
theorem sends_cases (h : w.Uses w') :
    w'.backend.server.received = w.backend.server.received ∨
      ∃ purpose r, w.Sends w' purpose r := by
  cases h with
  | rests backend => exact Or.inl (by rw [backend])
  | uses purpose backend calls current =>
    rcases Connection.received_use_cases w.backend purpose with
      hsame | ⟨r, hr, hreceived⟩
    · exact Or.inl (by rw [backend, hsame])
    · exact Or.inr ⟨purpose, r, hr, by rw [backend, hreceived], calls, current⟩

/-- A logout that is asked for is sent, if nothing keeps it from being sent. -/
theorem sends_logout (h : w.Uses w') {given : Option String}
    (asked : w'.calls = .logout given :: w.calls)
    (reachable : w.backend.server.isReachable = true)
    (sendable : w.backend.client.canSendTo AuthEndpoint.logout = true)
    (legal : given.all isHeaderText = true) : ∃ r, w.Sends w' (.call (.logout given)) r := by
  cases h with
  | rests _ calls => exact absurd (asked.symm.trans calls) (List.cons_ne_self _ _)
  | uses purpose backend calls current =>
    have hpurpose : purpose = .call (.logout given) := by
      have hcall : purpose.call?.toList = [.logout given] :=
        List.append_cancel_right (calls.symm.trans asked)
      cases purpose with
      | retrieval path => cases hcall
      | call asked => exact congrArg Purpose.call (List.cons.inj hcall).1
    subst hpurpose
    have hsendable : w.backend.client.canSendFor (.call (.logout given)) = true :=
      Bool.and_eq_true_iff.2 ⟨sendable, (antiForgeryHeaders_all given).trans legal⟩
    obtain ⟨r, hr, hreceived⟩ := Connection.received_use reachable hsendable
    exact ⟨r, hr, by rw [backend, hreceived], calls, current⟩

end Uses


-- ---------------------------------------------------------------------------
-- Runs
-- ---------------------------------------------------------------------------

section

variable (w : AuthWorld Connection) (script : List SharedStep)

/-- What every step keeps, a whole run keeps. -/
theorem shareAll_keeps {β : Type} {f : AuthWorld Connection → β}
    (hstep : ∀ w step, f (w.share step) = f w) : f (w.shareAll script) = f w := by
  induction script using List.reverseRecOn with
  | nil => rfl
  | append_singleton script last ih => rw [shareAll_snoc, hstep, ih]

theorem shareAll_baseUrl :
    (w.shareAll script).backend.client.baseUrl = w.backend.client.baseUrl :=
  shareAll_keeps (f := (·.backend.client.baseUrl)) w script
    fun w step => (uses_share w step).baseUrl

theorem shareAll_isReachable :
    (w.shareAll script).backend.server.isReachable = w.backend.server.isReachable :=
  shareAll_keeps (f := (·.backend.server.isReachable)) w script
    fun w step => (uses_share w step).isReachable

/-- The session has the token of the latest change. -/
theorem shareAll_token (hnew : w.changes = []) :
    (w.shareAll script).session.token? =
      w.gateway.store.tokenAfter (w.shareAll script).changes.head? := by
  induction script using List.reverseRecOn with
  | nil =>
    show w.session.token? = w.gateway.store.tokenAfter w.changes.head?
    rw [hnew]
    rfl
  | append_singleton script last ih =>
    rw [shareAll_snoc]
    obtain ⟨change, hchanges, htoken⟩ := (w.shareAll script).share_token last
    rw [hchanges, htoken]
    cases change with
    | none => exact ih
    | some change => rfl

end

/-- Every request that the server has received was sent in one step of the run. -/
theorem received_split {w : AuthWorld Connection} (hempty : w.backend.server.received = [])
    {script : List SharedStep} {later earlier : List HttpRequest} {r : HttpRequest}
    (hr : (w.shareAll script).backend.server.received = later ++ r :: earlier) :
    ∃ first step rest purpose, script = first ++ step :: rest ∧
      (w.shareAll first).backend.server.received = earlier ∧
      (w.shareAll first).Sends (w.shareAll (first ++ [step])) purpose r := by
  induction script using List.reverseRecOn generalizing later with
  | nil => exact absurd (hempty.symm.trans hr) (by simp)
  | append_singleton script last ih =>
    have hprefix : ∀ {later : List HttpRequest},
        (w.shareAll script).backend.server.received = later ++ r :: earlier →
        ∃ first step rest purpose, script ++ [last] = first ++ step :: rest ∧
          (w.shareAll first).backend.server.received = earlier ∧
          (w.shareAll first).Sends (w.shareAll (first ++ [step])) purpose r := by
      intro later hr
      obtain ⟨first, step, rest, purpose, rfl, hrest⟩ := ih hr
      exact ⟨first, step, rest ++ [last], purpose, by simp, hrest⟩
    have huses := uses_share (w.shareAll script) last
    rw [← shareAll_snoc] at huses
    rcases huses.sends_cases with hsame | ⟨purpose, r', hsends⟩
    · exact hprefix (hsame ▸ hr)
    · rw [hsends.received] at hr
      cases later with
      | nil =>
        obtain ⟨rfl, rfl⟩ := List.cons.inj hr
        exact ⟨script, last, [], purpose, rfl, rfl, hsends⟩
      | cons r'' later => exact hprefix (List.cons.inj hr).2

/-- However the steps of a gateway and of retrievals on its connection follow each other: every
request that the server has received was sent for one purpose in one step of the run. If it carries
the anti-forgery header, it is a logout's, posted to the target of logouts. A logout's request
carries the header exactly if the session is authenticated in that step, with the token that was
installed last. No login and nothing that is only read carries it. If the base is an origin, the
target of each call is its path. Unless the base has a fragment, which no request takes along, what
is posted to the target of logouts is a logout's, and what goes to the target of logins has no
token. Each logout that is asked for is sent at once with the token of the session, if that can
stand in a header and the server can be reached. -/
theorem token_goes_with_logouts (client : HttpClient) {server : Server}
    (hserver : server.received = []) (store : SessionStore) (script : List SharedStep) :
    let start := on store ({ client, server } : Connection)
    (∀ later r earlier,
      (start.shareAll script).backend.server.received = later ++ r :: earlier →
      ∃ first step rest purpose, script = first ++ step :: rest ∧
        (start.shareAll first).backend.server.received = earlier ∧
        let w := start.shareAll (first ++ [step])
        (start.shareAll first).Sends w purpose r ∧
        (r.antiForgeryToken?.isSome →
          (∃ given, purpose = .call (.logout given)) ∧ r.method = .post ∧
          client.target? AuthEndpoint.logout = some r.target) ∧
        (∀ given, purpose = .call (.logout given) →
          r.antiForgeryToken? = w.session.token? ∧
          (r.antiForgeryToken?.isSome ↔ w.session.phase = .authenticated) ∧
          r.antiForgeryToken? = store.tokenAfter w.changes.head?) ∧
        (r.method = .get → r.antiForgeryToken? = none) ∧
        (∀ identity secret, purpose = .call (.login identity secret) →
          r.antiForgeryToken? = none) ∧
        (client.IsOrigin → ∀ asked, purpose = .call asked → r.target = asked.path) ∧
        ('#' ∉ client.baseUrl.toList →
          (r.method = .post → client.target? AuthEndpoint.logout = some r.target →
            ∃ given, purpose = .call (.logout given)) ∧
          (client.target? AuthEndpoint.login = some r.target → r.antiForgeryToken? = none))) ∧
    (server.isReachable = true → client.canSendTo AuthEndpoint.logout = true →
      ∀ step given, let w := (start.shareAll script).share step
        w.calls = .logout given :: (start.shareAll script).calls →
        given.all isHeaderText = true →
        ∃ r, (start.shareAll script).Sends w (.call (.logout given)) r ∧
          r.antiForgeryToken? = w.session.token?) := by
  intro start
  refine ⟨?sent, ?received⟩
  case sent =>
    intro later r earlier hr
    obtain ⟨first, step, rest, purpose, hscript, hbefore, hsends⟩ := received_split hserver hr
    have hbase : _ = client.baseUrl := shareAll_baseUrl start first
    have htarget := HttpClient.target?_congr hbase
    have hrequest := hsends.request
    have htoken := HttpClient.antiForgeryToken?_of_requestFor? hrequest
    refine ⟨first, step, rest, purpose, hscript, hbefore, hsends, ?only, ?logout,
      HttpClient.token?_of_get hrequest, ?login, ?origin, ?target⟩
    case only =>
      intro hsome
      obtain ⟨given, rfl⟩ := Purpose.exists_logout (htoken ▸ hsome)
      have hlogout := HttpClient.target_of_requestFor? hrequest
      exact ⟨⟨given, rfl⟩, HttpClient.method_of_requestFor? hrequest, htarget _ ▸ hlogout⟩
    case logout =>
      rintro given rfl
      have hcurrent := htoken.trans (hsends.current given rfl)
      refine ⟨hcurrent, ?_, hcurrent.trans (shareAll_token start _ rfl)⟩
      rw [hcurrent, Option.isSome_iff_ne_none, ne_eq, SessionState.token?_eq_none_iff, ne_eq,
        not_not]
    case login =>
      rintro identity secret rfl
      exact htoken
    case origin =>
      rintro horigin asked rfl
      obtain ⟨word, plain, hpath⟩ := asked.exists_isPlain
      have hasked := HttpClient.target_of_requestFor? hrequest
      exact HttpClient.target?_of_isOrigin plain hpath horigin (htarget _ ▸ hasked)
    case target =>
      intro hwhole
      rw [← htarget, ← htarget]
      have hwhole := hbase ▸ hwhole
      exact ⟨HttpClient.exists_logout_of_target hrequest hwhole,
        HttpClient.token?_of_target_login hrequest hwhole⟩
  case received =>
    intro hreachable hsendable step given w hasked hlegal
    have hbase := shareAll_baseUrl start script
    obtain ⟨r, hsends⟩ := (uses_share (start.shareAll script) step).sends_logout hasked
      ((shareAll_isReachable start script).trans hreachable)
      ((HttpClient.canSendTo_congr hbase AuthEndpoint.logout).trans hsendable) hlegal
    exact ⟨r, hsends, (HttpClient.antiForgeryToken?_of_requestFor? hsends.request).trans
      (hsends.current given rfl)⟩

/-- A session is probed, a list is retrieved, the session ends and is ended once more. The first
logout carries the token of the probe and the second one none, and it is known by its target. -/
theorem token_goes_with_first_logout :
    let reply (text : String) : ServerReply :=
      .respond { status := 200, sent := text.toUTF8.toList }
    let client : HttpClient := { baseUrl := "http://h" }
    let server : Server := { replies :=
      [reply "\x7b\"identity\":\"ann\"\x7d", reply "\x7b\"token\":\"t1\"\x7d", reply "[]"] }
    let start := on {} ({ client, server } : Connection)
    let before : List SharedStep :=
      [.gateway (.call .probe) rfl, .gateway (.run 0) rfl, .gateway (.arrive 0) rfl,
        .gateway (.arrive 0) rfl, .retrieve some "/api/alerts", .gateway (.call .logout) rfl]
    let ending : SharedStep := .gateway (.run 1) rfl
    let again : List SharedStep :=
      [.gateway (.arrive 1) rfl, .gateway (.call .logout) rfl, .gateway (.run 2) rfl]
    let logout : HttpRequest := { method := .post, target := "/api/auth/logout" }
    let first : HttpRequest := { logout with headers := [("X-CSRF-Token", "t1")] }
    let earlier : List HttpRequest :=
      ["/api/alerts", "/api/auth/csrf", "/api/auth/session"].map ({ method := .get, target := · })
    (start.shareAll (before ++ ending :: again)).backend.server.received =
        logout :: first :: earlier ∧
      (∃ script step given, (start.shareAll script).Sends (start.shareAll (script ++ [step]))
        (.call (.logout given)) first) ∧
      ∃ r, (start.shareAll before).Sends ((start.shareAll before).share ending)
          (.call (.logout (some "t1"))) r ∧ r.antiForgeryToken? = some "t1" := by
  intro reply client server start before ending again logout first earlier
  have hreceived : (start.shareAll (before ++ ending :: again)).backend.server.received =
      [logout] ++ first :: earlier := by
    decide +kernel
  have hserver : server.received = [] := rfl
  have hwhole : '#' ∉ client.baseUrl.toList := by decide
  refine ⟨hreceived, ?known, ?asked⟩
  case known =>
    -- The run must not be evaluated here.
    obtain ⟨script, step, rest, purpose, -, -, hsends, -, -, -, -, -, htarget⟩ :=
      (token_goes_with_logouts client hserver {} (before ++ ending :: again)).1 [logout] first
        earlier (by with_reducible exact hreceived)
    obtain ⟨given, rfl⟩ := (htarget hwhole).1 rfl (by decide +kernel)
    exact ⟨script, step, given, hsends⟩
  case asked =>
    obtain ⟨hasked, hsession⟩ :
        ((start.shareAll before).share ending).calls =
            .logout (some "t1") :: (start.shareAll before).calls ∧
          ((start.shareAll before).share ending).session.token? = some "t1" := by
      decide +kernel
    obtain ⟨r, hsends, htoken⟩ :=
      (token_goes_with_logouts client hserver {} before).2 rfl (by decide +kernel) ending
        (some "t1") hasked (by decide)
    exact ⟨r, hsends, htoken.trans hsession⟩

end AuthWorld

end DashboardClient
