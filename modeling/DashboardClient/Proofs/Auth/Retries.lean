import DashboardClient.Http.Connection
import DashboardClient.Proofs.Auth.StartupProbe

/-!
# What is worth another try

A failure of the backend reaches a caller in three ways: it ends what the call has asked for
itself, it ends the startup probe that the call runs, or it is the outcome of a probe that
another call ran before. The first two are seen in one step. The third is traced back to the
reply that it comes from, since the outcome of the probe is kept for good.

Wrapped or not, an error is as retryable as the failure behind it. A login is the exception: it
takes every refusal for wrong credentials, and one of them says to come back later.
-/

namespace DashboardClient

namespace ApiError

/-- The backend refuses because it is asked too often. -/
def IsThrottle (e : ApiError) : Prop :=
  ∃ body, e = .status 429 body

theorem IsThrottle.isClientError {e : ApiError} (h : e.IsThrottle) : e.isClientError = true := by
  obtain ⟨body, rfl⟩ := h
  rfl

/-- Of all refusals, only this one is worth another try. -/
theorem retryable_iff_of_isClientError {e : ApiError} (refused : e.isClientError = true) :
    e.retryable = true ↔ e.IsThrottle := by
  cases e with
  | unauthorized => simp [retryable, IsThrottle]
  | status n body =>
    have hrange : 400 ≤ n ∧ n ≤ 499 := by simpa [isClientError] using refused
    have hbelow : ¬500 ≤ n := by omega
    simp [retryable, IsThrottle, hbelow]
  | _ => cases refused

end ApiError

/-- The call is a login. -/
def AuthRequest.IsLogin (request : AuthRequest) : Prop :=
  ∃ identity secret, request = .login identity secret


namespace Connection

/-- A retrieval fails with the failure of its request. -/
theorem retrieve_eq_error_iff {α : Type} (c : Connection) (decode? : String → Option α)
    (path : String) (err : RetrievalError) :
    (c.retrieve decode? path).1 = .error err ↔
      ∃ e, (c.get decode? path).1 = .error e ∧ err = .api e := by
  simp only [retrieve]
  cases (c.get decode? path).1 with
  | ok value => simp [Except.mapError]
  | error e =>
    constructor
    · rintro ⟨⟩
      exact ⟨e, rfl, rfl⟩
    · rintro ⟨_, ⟨⟩, rfl⟩
      rfl

end Connection


-- ---------------------------------------------------------------------------
-- The end of what a call has asked for
-- ---------------------------------------------------------------------------

section Finishes

variable {store : SessionStore} {id : Nat} {stage : AuthStage} {reply : BackendReply}
  {change : Option SessionChange} {answer : AuthAnswer} {es : List AuthEvent} {e : ApiError}

theorem Finishes.not_mem_answered (h : Finishes store id stage reply change answer es) (id' : Nat)
    (answer' : AuthAnswer) : .answered id' answer' ∉ es := by
  cases h <;> simp

/-- An error is passed on as retryable as it is, unless a login is refused for now. -/
theorem Finishes.retryable_eq_iff (h : Finishes store id stage (.failed e) change answer es) :
    ∃ err, answer = .error err ∧
      (err.retryable = e.retryable ↔
        ¬((∃ identity, stage = .loggingIn identity) ∧ e.IsThrottle)) := by
  cases h with
  | @loginRejected identity _ refused =>
    refine ⟨.invalidCredentials, rfl, ?_⟩
    rw [← ApiError.retryable_iff_of_isClientError refused]
    simp [AuthError.retryable]
  | loginFailed broken =>
    refine ⟨.api e, rfl, iff_of_true rfl ?_⟩
    rintro ⟨_, throttle⟩
    cases throttle.isClientError.symm.trans broken
  | logoutFailed => exact ⟨.api e, rfl, iff_of_true rfl (fun h => nomatch h.1)⟩
  | refreshFailed => exact ⟨.api e, rfl, iff_of_true rfl (fun h => nomatch h.1)⟩

/-- What ends a call with an error is a failure of the backend, or the session ended before. -/
theorem Finishes.error_cases {err : AuthError}
    (h : Finishes store id stage reply change (.error err) es) :
    err = .notAuthenticated ∨ stage.isOwn = true ∧ ∃ e, reply = .failed e := by
  cases h with
  | outlived => exact Or.inl rfl
  | _ => exact Or.inr ⟨rfl, _, rfl⟩

end Finishes

namespace AuthGateway

variable {g g' : AuthGateway} {a : AuthAction} {c : AuthCall} {es : List AuthEvent}
  {outcome : Except AuthError SessionPhase} {err : AuthError} {e : ApiError} {id : Nat}
  {identity : String}

/-- Among the calls that have asked for something, those at the stage of logins are the logins. -/
theorem IsDisciplined.loggingIn_iff (h : g.IsDisciplined) (live : g.call? id = some c)
    (own : c.stage.isOwn = true) :
    (∃ identity, c.stage = .loggingIn identity) ↔ c.request.IsLogin := by
  have hadmits := h.admitted live
  unfold Admits at hadmits
  cases hs : c.stage with
  | loggingIn identity =>
    rw [hs] at hadmits
    exact iff_of_true ⟨identity, rfl⟩ hadmits.2
  | loggingOut =>
    rw [hs] at hadmits
    simp [AuthRequest.IsLogin, hadmits.2]
  | refreshing epoch =>
    rw [hs] at hadmits
    simp [AuthRequest.IsLogin, hadmits.2.1]
  | _ => simp [hs, AuthStage.isOwn] at own

theorem Step.finishes_of_own (h : g.Step (.reply id (.failed e)) g' es)
    (live : g.call? id = some c) (own : c.stage.isOwn = true) :
    ∃ change answer early, Finishes g.store id c.stage (.failed e) change answer early ∧
      es = early ++ [.answered id answer] := by
  cases h with
  | stay ignored =>
    have hdeaf := ignored c live
    cases hs : c.stage <;> simp [hs, AuthStage.isOwn, AuthStage.hears] at own hdeaf
  | settle hlive ends =>
    obtain rfl := Option.some.inj (hlive.symm.trans live)
    generalize AuthCall.stage _ = stage at ends own
    cases ends <;> cases own
  | finish hlive finishes =>
    obtain rfl := Option.some.inj (hlive.symm.trans live)
    exact ⟨_, _, _, finishes, rfl⟩


-- ---------------------------------------------------------------------------
-- The end of the startup probe
-- ---------------------------------------------------------------------------

/-- The backend knows who is there, but fails to give the startup probe its token. -/
inductive FailsProbe (g : AuthGateway) (e : ApiError) : AuthAction → Prop where
  | token {id : Nat} {c : AuthCall} {identity : String} (live : g.call? id = some c)
    (stage : c.stage = .probingToken identity) : FailsProbe g e (.reply id (.failed e))

/-- The call that runs the probe goes on after the failure. -/
theorem Step.proceeds_of_probingToken (h : g.Step (.reply id (.failed e)) g' es)
    (live : g.call? id = some c) (stage : c.stage = .probingToken identity) :
    ∃ notice change later, es = .noted id notice :: .changed id change :: later ∧
      (g.settled change (.error (.initialization e))).Proceeds c (.error (.initialization e))
        g' later := by
  cases h with
  | stay ignored =>
    have hdeaf := ignored c live
    simp [stage, AuthStage.hears] at hdeaf
  | settle hlive ends proceeds =>
    obtain rfl := Option.some.inj (hlive.symm.trans live)
    rw [stage] at ends
    cases ends
    exact ⟨_, _, _, rfl, proceeds⟩
  | finish hlive finishes =>
    obtain rfl := Option.some.inj (hlive.symm.trans live)
    rw [stage] at finishes
    cases finishes

theorem Step.settled_of_failsProbe (h : g.Step a g' es) (fails : g.FailsProbe e a) :
    g'.probe = .settled (.error (.initialization e)) := by
  cases fails with
  | token live stage =>
    obtain ⟨_, _, _, _, proceeds⟩ := h.proceeds_of_probingToken live stage
    exact proceeds.probe_eq

/-- The probe does not come to an error in any other way. -/
theorem Step.error_of_settled (h : g.Step a g' es) (ended : g'.probe = .settled (.error err)) :
    g.probe = .settled (.error err) ∨ ∃ e, g.FailsProbe e a ∧ err = .initialization e := by
  cases h with
  | probe => cases ended
  | proceed _ _ _ proceeds => exact Or.inl (proceeds.probe_eq.symm.trans ended)
  | @settle c reply outcome change notice g' es live ends proceeds =>
    obtain rfl := Probe.settled.inj (proceeds.probe_eq.symm.trans ended)
    generalize hs : c.stage = stage at ends
    cases ends with
    | tokenFailed => exact Or.inr ⟨_, .token live hs, rfl⟩
  | abandon => exact absurd ⟨_, ended⟩ (not_isSettled_handOver _)
  | _ => exact Or.inl ended

/-- The startup probe could not fetch its token. -/
def ProbeFailed (store : SessionStore) (actions : List AuthAction) (e : ApiError) : Prop :=
  ∃ earlier a later, actions = earlier ++ a :: later ∧ (history store earlier).1.FailsProbe e a

theorem ProbeFailed.settled {store : SessionStore} {actions : List AuthAction}
    (h : ProbeFailed store actions e) :
    (history store actions).1.probe = .settled (.error (.initialization e)) := by
  obtain ⟨earlier, a, later, rfl, fails⟩ := h
  have hstep := step_act (history store earlier).1 a
  rw [List.append_cons, history_append, history_snoc]
  exact outcome_of_runAll (hstep.isDisciplined (isDisciplined_history store earlier))
    (hstep.settled_of_failsProbe fails) later

/-- An error that is kept as the outcome of the probe comes from the reply to its fetch. -/
theorem probeFailed_of_settled {store : SessionStore} {actions : List AuthAction}
    (ended : (history store actions).1.probe = .settled (.error err)) :
    ∃ e, ProbeFailed store actions e ∧ err = .initialization e := by
  induction actions using List.reverseRecOn with
  | nil => cases ended
  | append_singleton actions a ih =>
    rw [history_snoc] at ended
    rcases (step_act _ a).error_of_settled ended with hbefore | ⟨e, fails, rfl⟩
    · obtain ⟨e, ⟨earlier, b, later, rfl, fails⟩, rfl⟩ := ih hbefore
      exact ⟨e, ⟨earlier, b, later ++ [a], by simp, fails⟩, rfl⟩
    · exact ⟨e, ⟨actions, a, [], rfl, fails⟩, rfl⟩


-- ---------------------------------------------------------------------------
-- Who is told of the probe
-- ---------------------------------------------------------------------------

/-- A call that asks for the outcome of the probe is told when it runs after it. -/
theorem Step.told (h : g.Step (.run id) g' es) (live : g.call? id = some c)
    (waits : c.stage = .ready ∨ c.stage = .queued) (request : c.request = .probe)
    (ended : g.probe = .settled outcome) : es = [.answered id (outcomeAnswer outcome)] := by
  cases h with
  | stay ignored =>
    have hidle := ignored c live
    rcases waits with hs | hs <;> simp [isReady, hs, ended] at hidle
  | probe _ free => rcases free with ⟨_, hp⟩ | ⟨_, hp⟩ <;> cases ended.symm.trans hp
  | enqueue _ _ running => cases ended.symm.trans running
  | proceed hlive _ ended' proceeds =>
    obtain rfl := Option.some.inj (hlive.symm.trans live)
    obtain rfl := Probe.settled.inj (ended.symm.trans ended')
    exact proceeds.told request


-- ---------------------------------------------------------------------------
-- How failures reach callers
-- ---------------------------------------------------------------------------

/-- With this step the backend's failure reaches the call. -/
inductive Reaches (store : SessionStore) (before : List AuthAction) (c : AuthCall) (e : ApiError) :
    AuthAction → Prop where
  /-- The backend fails to do what the call has asked for. -/
  | own (live : (history store before).1.call? c.id = some c) (own : c.stage.isOwn = true) :
    Reaches store before c e (.reply c.id (.failed e))
  /-- The call runs the startup probe for its own sake. -/
  | probing {identity : String} (live : (history store before).1.call? c.id = some c)
    (request : c.request = .probe) (stage : c.stage = .probingToken identity) :
    Reaches store before c e (.reply c.id (.failed e))
  /-- The call asks for the outcome of a probe that is over. -/
  | told (live : (history store before).1.call? c.id = some c) (request : c.request = .probe)
    (waits : c.stage = .ready ∨ c.stage = .queued) (failed : ProbeFailed store before e) :
    Reaches store before c e (.run c.id)

/-- A call that goes on after the probe answers with an error of its own, or with the outcome. -/
theorem Proceeds.error_cases (h : g.Proceeds c outcome g' es)
    (answered : .answered id (.error err) ∈ es) :
    (err = .missingCredentials ∨ err = .notAuthenticated) ∨
      c.request = .probe ∧ outcome = .error err := by
  cases h with
  | decline declines =>
    obtain ⟨_, rfl⟩ := AuthEvent.answered.inj (List.mem_singleton.1 answered)
    generalize c.request = request at declines
    cases declines with
    | failed known => exact Or.inr ⟨rfl, known⟩
    | missing => exact Or.inl (Or.inl rfl)
    | notAuthenticated => exact Or.inl (Or.inr rfl)
  | send => cases List.mem_singleton.1 answered

/-- Every error that is not the gateway's own is a failure of the backend that reaches the call. -/
theorem reaches_of_answered {store : SessionStore} {before : List AuthAction}
    (live : (history store before).1.call? id = some c)
    (answered : .answered id (.error err) ∈ ((history store before).1.act a).2) :
    (err = .missingCredentials ∨ err = .notAuthenticated) ∨ ∃ e, Reaches store before c e a := by
  have hstep := step_act (history store before).1 a
  obtain rfl : id = a.caller := hstep.caller_eq _ answered
  generalize ((history store before).1.act a).1 = g' at hstep
  generalize ((history store before).1.act a).2 = es at hstep answered
  cases hstep with
  | proceed hlive stage ended proceeds =>
    obtain rfl := Option.some.inj (hlive.symm.trans live)
    refine (proceeds.error_cases answered).imp_right ?_
    rintro ⟨request, rfl⟩
    obtain ⟨e, failed, _⟩ := probeFailed_of_settled ended
    exact ⟨e, .told live request stage failed⟩
  | @settle d reply outcome change notice g' es hlive ends proceeds =>
    obtain rfl := Option.some.inj (hlive.symm.trans live)
    refine (proceeds.error_cases (by simpa using answered)).imp_right ?_
    rintro ⟨request, rfl⟩
    generalize hs : d.stage = stage at ends
    cases ends with
    | tokenFailed => exact ⟨_, .probing live request hs⟩
  | @finish d reply change answer es hlive finishes =>
    obtain rfl := Option.some.inj (hlive.symm.trans live)
    rcases List.mem_append.1 answered with early | last
    · exact absurd early (finishes.not_mem_answered _ _)
    · obtain ⟨_, rfl⟩ := AuthEvent.answered.inj (List.mem_singleton.1 last)
      rcases finishes.error_cases with rfl | ⟨own, e, rfl⟩
      · exact Or.inl (Or.inr rfl)
      · exact Or.inr ⟨e, .own live own⟩
  | abandon => simp at answered
  | withdraw => simp at answered
  | _ => simp at answered

/-- The call is answered with one error, which is as retryable as the failure unless it is that of a
login that is refused for now. -/
theorem Reaches.answer_iff {store : SessionStore} {before : List AuthAction}
    (h : Reaches store before c e a) :
    ∃ err, (∀ answer, .answered c.id answer ∈ ((history store before).1.act a).2 ↔
        answer = .error err) ∧
      (err.retryable = e.retryable ↔ ¬(c.request.IsLogin ∧ e.IsThrottle)) := by
  have hstep := step_act (history store before).1 a
  cases h with
  | own live own =>
    have hdisciplined := isDisciplined_history store before
    obtain ⟨change, answer, early, finishes, hes⟩ := hstep.finishes_of_own live own
    obtain ⟨err, rfl, hretryable⟩ := finishes.retryable_eq_iff
    rw [hdisciplined.loggingIn_iff live own] at hretryable
    refine ⟨err, ?_, hretryable⟩
    intro answer
    simp [hes, finishes.not_mem_answered]
  | probing live request stage =>
    obtain ⟨notice, change, later, hes, proceeds⟩ := hstep.proceeds_of_probingToken live stage
    refine ⟨.initialization e, ?_, iff_of_true rfl ?_⟩
    · simp [hes, proceeds.told request, outcomeAnswer]
    · simp [request, AuthRequest.IsLogin]
  | told live request waits failed =>
    refine ⟨.initialization e, ?_, iff_of_true rfl ?_⟩
    · simp [hstep.told live waits request failed.settled, outcomeAnswer]
    · simp [request, AuthRequest.IsLogin]


-- ---------------------------------------------------------------------------
-- Retryability survives
-- ---------------------------------------------------------------------------

/-- Whichever way a failure of the backend reaches a caller, and whatever other calls come and go:
the call is answered with an error and nothing else, and that error is as retryable as the failure,
unless the backend throttles a login. Every error of an answer that is not the gateway's own is such
a failure. A retrieval wraps every failure of a request, and what it wraps is as retryable. -/
theorem retryability_survives_but_for_throttled_logins (store : SessionStore)
    (before : List AuthAction) (a : AuthAction) :
    let g := (history store before).1
    let events := (g.act a).2
    (∀ c e, Reaches store before c e a →
      ∃ err, (∀ answer, .answered c.id answer ∈ events ↔ answer = .error err) ∧
        (err.retryable = e.retryable ↔ ¬(c.request.IsLogin ∧ e.IsThrottle))) ∧
    (∀ c err, g.call? c.id = some c → .answered c.id (.error err) ∈ events →
      (err = .missingCredentials ∨ err = .notAuthenticated) ∨
        ∃ e, Reaches store before c e a) ∧
    (∀ e, (RetrievalError.api e).retryable = e.retryable) ∧
    ∀ (connection : Connection) {α : Type} (decode? : String → Option α) (path : String) err,
      (connection.retrieve decode? path).1 = .error err ↔
        ∃ e, (connection.get decode? path).1 = .error e ∧ err = .api e := by
  intro g events
  refine ⟨fun c e reaches => reaches.answer_iff, ?_, fun e => rfl, ?_⟩
  · intro c err live answered
    exact reaches_of_answered live answered
  · intro connection α decode? path err
    exact connection.retrieve_eq_error_iff decode? path err

/-- A login runs the startup probe, which cannot fetch its token, and is then answered by a backend
that has broken down. The call that waits for the probe may be tried again, and so may the login. -/
theorem retryability_survives_a_broken_probe :
    let before : List AuthAction :=
      [.start 1 (.login "ann" "pw"), .run 1, .start 2 .probe, .run 2, .reply 1 (.identity "ann"),
       .reply 1 (.failed (.status 503 "down"))]
    let g := (history {} before).1
    (∃ err, .answered 2 (.error err) ∈ (g.act (.run 2)).2 ∧ err.retryable = true) ∧
      ∃ err, .answered 1 (.error err) ∈ (g.act (.reply 1 (.failed (.status 502 "")))).2 ∧
        err.retryable = true := by
  intro before g
  let login : AuthCall := { id := 1, request := .login "ann" "pw", stage := .loggingIn "ann" }
  let waiting : AuthCall := { id := 2, request := .probe, stage := .queued }
  have hlogin : g.call? 1 = some login := by decide +kernel
  have hwaiting : g.call? 2 = some waiting := by decide +kernel
  have hfailed : ProbeFailed {} before (.status 503 "down") :=
    ⟨before.dropLast, _, [], rfl, .token rfl rfl⟩
  constructor
  · obtain ⟨hreached, _⟩ := retryability_survives_but_for_throttled_logins {} before (.run 2)
    obtain ⟨err, hanswer, hretryable⟩ :=
      hreached waiting _ (.told hwaiting rfl (Or.inr rfl) hfailed)
    refine ⟨err, (hanswer _).2 rfl, hretryable.2 ?_⟩
    simp [ApiError.IsThrottle]
  · obtain ⟨hreached, _⟩ := retryability_survives_but_for_throttled_logins {} before
      (.reply 1 (.failed (.status 502 "")))
    obtain ⟨err, hanswer, hretryable⟩ := hreached login _ (.own hlogin rfl)
    refine ⟨err, (hanswer _).2 rfl, hretryable.2 ?_⟩
    simp [ApiError.IsThrottle]

/-- The backend asks a login to come back later, and the login says that its credentials are wrong
for good. -/
theorem throttled_login_is_called_permanent :
    let before : List AuthAction :=
      [.start 1 (.login "ops" "secret"), .run 1, .reply 1 (.failed .unauthorized)]
    let c : AuthCall :=
      { id := 1, request := .login "ops" "secret", stage := .loggingIn "ops" }
    let e : ApiError := .status 429 "slow down"
    Reaches {} before c e (.reply 1 (.failed e)) ∧
      .answered 1 (.error .invalidCredentials) ∈
        ((history {} before).1.act (.reply 1 (.failed e))).2 ∧
      e.retryable = true ∧ AuthError.invalidCredentials.retryable = false := by
  intro before c e
  have live : (history {} before).1.call? 1 = some c := by decide +kernel
  refine ⟨.own live rfl, ?_, rfl, rfl⟩
  simp only [act, live, receive, c]
  exact List.mem_cons_of_mem _ List.mem_cons_self

end AuthGateway

end DashboardClient
