import DashboardClient.Proofs.Auth.Logout
import DashboardClient.Proofs.Text.Trimmed

/-!
# Logins install a session or nothing

Until it has asked the backend, a login does nothing but what any call does that waits for the
startup probe. It asks once, with the identity trimmed and the secret as it is, or answers that
one of them is missing. From then on it has one step left: the backend's session is installed as
a whole in that step, and in every other case the store stays as the others have made it.
-/

namespace DashboardClient

/-- There is something to ask the backend for. -/
def CredentialsGiven (identity secret : String) : Prop :=
  Text.trim identity ≠ "" ∧ secret ≠ ""

/-- The error says that the backend refused the request. -/
def ApiError.IsRefusal (e : ApiError) : Prop :=
  e = .unauthorized ∨ ∃ n body, e = .status n body ∧ 400 ≤ n ∧ n ≤ 499

theorem ApiError.isClientError_iff (e : ApiError) : e.isClientError = true ↔ e.IsRefusal := by
  cases e <;> simp [isClientError, IsRefusal]

namespace AuthEvent

/-- The event belongs to the startup probe, whichever call runs it. -/
def isProbes : AuthEvent → Bool
  | .sent _ .probe => true
  | .sent _ .token => true
  | .changed _ change => change.isProbes
  | .noted _ .noSession => true
  | .noted _ (.probeFailed _) => true
  | .noted _ (.probedAuthenticated _) => true
  | .noted _ (.probeTokenFailed _) => true
  | _ => false

theorem isEnd_of_isProbes {e : AuthEvent} (probes : e.isProbes = true) : e.isEnd = false := by
  cases e with
  | answered => cases probes
  | cancelled => cases probes
  | _ => rfl

end AuthEvent

theorem ProbeEnds.all_isProbes {stage : AuthStage} {reply : BackendReply}
    {outcome : Except AuthError SessionPhase} {change : SessionChange} {notice : AuthNotice}
    (h : ProbeEnds stage reply outcome change notice) (id : Nat) :
    ∀ e ∈ [AuthEvent.noted id notice, .changed id change], e.isProbes = true := by
  cases h <;> simp [AuthEvent.isProbes, SessionChange.isProbes]

theorem lasts_of_isProbes {id : Nat} {es : List AuthEvent}
    (probes : ∀ e ∈ es, e.isProbes = true) : Lasts id es := by
  intro e he ends
  rw [AuthEvent.isEnd_of_isProbes (probes e he)] at ends
  cases ends

/-- What happened to the call among the events. -/
def ownIn (id : Nat) (events : List AuthEvent) : List AuthEvent :=
  events.filter (·.caller == id)

theorem ownIn_append (id : Nat) (first rest : List AuthEvent) :
    ownIn id (first ++ rest) = ownIn id first ++ ownIn id rest :=
  List.filter_append first rest

theorem ownIn_eq_nil {id : Nat} {es : List AuthEvent} (others : ∀ e ∈ es, e.caller ≠ id) :
    ownIn id es = [] := by
  simpa [ownIn] using others

namespace AuthGateway

variable {g g' : AuthGateway} {a : AuthAction} {c : AuthCall} {es : List AuthEvent}
  {outcome : Except AuthError SessionPhase} {identity secret : String}

theorem Step.ownIn_caller (h : g.Step a g' es) : ownIn a.caller es = es := by
  simpa [ownIn] using h.caller_eq

-- ---------------------------------------------------------------------------
-- A login that waits for the probe
-- ---------------------------------------------------------------------------

/-- What a login that waits for the probe does in a step of its own: it goes on waiting, asks the
backend, answers that something is missing, or is dropped. -/
inductive LoginMoves (g' : AuthGateway) (c : AuthCall) (id : Nat) (identity secret : String) :
    AuthAction → List AuthEvent → Prop where
  | waits {a : AuthAction} {es : List AuthEvent} {stage : AuthStage}
    (live : g'.call? id = some { c with stage }) (waits : stage.awaitsProbe = true)
    (probes : ∀ e ∈ es, e.isProbes = true) : LoginMoves g' c id identity secret a es
  | asks {a : AuthAction} {early : List AuthEvent} (given : CredentialsGiven identity secret)
    (live : g'.call? id = some { c with stage := .loggingIn (Text.trim identity) })
    (probes : ∀ e ∈ early, e.isProbes = true) :
    LoginMoves g' c id identity secret a
      (early ++ [.sent id (.login (Text.trim identity) secret)])
  | misses {a : AuthAction} {early : List AuthEvent} (missing : ¬CredentialsGiven identity secret)
    (probes : ∀ e ∈ early, e.isProbes = true) :
    LoginMoves g' c id identity secret a (early ++ [.answered id (.error .missingCredentials)])
  | dropped {a : AuthAction} (drops : a = .cancel id) :
    LoginMoves g' c id identity secret a [.cancelled id]

/-- After the probe a login asks the backend, or answers that something is missing. -/
theorem Proceeds.login_cases (h : g.Proceeds c outcome g' es) (live : g.call? c.id = some c)
    (request : c.request = .login identity secret) :
    (CredentialsGiven identity secret ∧
        es = [.sent c.id (.login (Text.trim identity) secret)] ∧
        g'.call? c.id = some { c with stage := .loggingIn (Text.trim identity) }) ∨
      (¬CredentialsGiven identity secret ∧
        es = [.answered c.id (.error .missingCredentials)]) := by
  cases h with
  | send sends =>
    rw [request] at sends
    cases sends with
    | login given =>
      refine Or.inl ⟨?_, rfl, call?_moveTo_self live _⟩
      simpa [CredentialsGiven, String.isEmpty_iff] using given
  | decline declines =>
    rw [request] at declines
    cases declines with
    | missing missing =>
      refine Or.inr ⟨?_, rfl⟩
      rw [CredentialsGiven, not_and_or, not_not, not_not]
      simpa [String.isEmpty_iff] using missing

theorem Proceeds.loginMoves {settled : AuthGateway} {early : List AuthEvent}
    (h : settled.Proceeds c outcome g' es) (live : settled.call? c.id = some c)
    (request : c.request = .login identity secret)
    (probes : ∀ e ∈ early, e.isProbes = true) :
    LoginMoves g' c c.id identity secret a (early ++ es) := by
  rcases h.login_cases live request with ⟨given, rfl, live'⟩ | ⟨missing, rfl⟩
  · exact .asks given live' probes
  · exact .misses missing probes

theorem Step.loginMoves (h : g.Step a g' es) (live : g.call? a.caller = some c)
    (request : c.request = .login identity secret) (waits : c.stage.awaitsProbe = true) :
    LoginMoves g' c a.caller identity secret a es := by
  cases h with
  | stay => exact .waits live waits (List.forall_mem_nil _)
  | arrive fresh => cases fresh.symm.trans live
  | probe hlive =>
    obtain rfl := Option.some.inj (hlive.symm.trans live)
    exact .waits (call?_probe_self live) rfl (List.forall_mem_singleton.2 rfl)
  | enqueue hlive =>
    obtain rfl := Option.some.inj (hlive.symm.trans live)
    exact .waits (call?_moveTo_self live _) rfl (List.forall_mem_nil _)
  | identify hlive =>
    obtain rfl := Option.some.inj (hlive.symm.trans live)
    exact .waits (call?_moveTo_self live _) rfl (List.forall_mem_singleton.2 rfl)
  | proceed hlive _ _ proceeds =>
    obtain rfl := Option.some.inj (hlive.symm.trans live)
    exact proceeds.loginMoves live request (List.forall_mem_nil _)
  | settle hlive ends proceeds =>
    obtain rfl := Option.some.inj (hlive.symm.trans live)
    exact proceeds.loginMoves live request (ends.all_isProbes _)
  | finish hlive finishes =>
    obtain rfl := Option.some.inj (hlive.symm.trans live)
    generalize AuthCall.stage _ = stage at finishes waits
    cases finishes <;> cases waits
  | abandon hlive =>
    obtain rfl := Option.some.inj (hlive.symm.trans live)
    rw [lastChange_of_awaitsProbe waits]
    exact .dropped rfl
  | withdraw hlive =>
    obtain rfl := Option.some.inj (hlive.symm.trans live)
    rw [lastChange_of_awaitsProbe waits]
    exact .dropped rfl


-- ---------------------------------------------------------------------------
-- How far a login has come
-- ---------------------------------------------------------------------------

/-- A login that has not ended waits for the probe, and nothing happened to it that is not the
probe's, or it has asked the backend once, after the probe. -/
inductive LoginStands (g : AuthGateway) (id : Nat) (identity secret : String)
    (own : List AuthEvent) : Prop where
  | waits {c : AuthCall} (live : g.call? id = some c) (request : c.request = .login identity secret)
    (waits : c.stage.awaitsProbe = true) (probes : ∀ e ∈ own, e.isProbes = true)
  | asked {c : AuthCall} {early : List AuthEvent} (live : g.call? id = some c)
    (request : c.request = .login identity secret)
    (stage : c.stage = .loggingIn (Text.trim identity)) (given : CredentialsGiven identity secret)
    (probes : ∀ e ∈ early, e.isProbes = true)
    (once : own = early ++ [.sent id (.login (Text.trim identity) secret)])

theorem LoginStands.step {id : Nat} {own : List AuthEvent}
    (h : g.LoginStands id identity secret own) (step : g.Step a g' es) (lasts : Lasts id es) :
    g'.LoginStands id identity secret (own ++ ownIn id es) := by
  cases h with
  | @asked c early live request stage given probes once =>
    obtain ⟨live', quiet⟩ := step.pending_of_lasts live (by rw [stage]; rfl) lasts
    rw [ownIn_eq_nil quiet, List.append_nil]
    exact .asked live' request stage given probes once
  | @waits c live request waits probes =>
    by_cases mine : id = a.caller
    · subst mine
      rw [step.ownIn_caller]
      cases step.loginMoves live request waits with
      | waits live' waits' probes' =>
        exact .waits live' request waits' (List.forall_mem_append.2 ⟨probes, probes'⟩)
      | asks given live' probes' =>
        refine .asked live' request rfl given (List.forall_mem_append.2 ⟨probes, probes'⟩) ?_
        rw [List.append_assoc]
      | misses => exact absurd lasts (not_lasts_snoc rfl rfl)
      | dropped => exact absurd lasts (not_lasts List.mem_cons_self rfl rfl)
    · rw [ownIn_eq_nil (step.caller_ne mine), List.append_nil]
      exact .waits ((step.call?_of_ne mine).trans live) request waits probes

theorem loginStands_runAll {id : Nat} (live : g.call? id = some c)
    (request : c.request = .login identity secret) (waits : c.stage.awaitsProbe = true)
    {actions : List AuthAction} (lasts : Lasts id (g.runAll actions).2) :
    (g.runAll actions).1.LoginStands id identity secret (ownIn id (g.runAll actions).2) := by
  induction actions using List.reverseRecOn with
  | nil => exact .waits live request waits (List.forall_mem_nil _)
  | append_singleton actions a ih =>
    rw [runAll_snoc, lasts_append] at lasts
    rw [runAll_snoc, ownIn_append]
    exact (ih lasts.1).step (step_act _ a) lasts.2


-- ---------------------------------------------------------------------------
-- The end of a login
-- ---------------------------------------------------------------------------

section Asked

variable {id : Nat} {trimmed : String}

theorem act_reply_login (live : g.call? id = some c) (stage : c.stage = .loggingIn trimmed)
    (session : Wire.LoginReply) :
    (g.act (.reply id (.login session))).1.store =
        g.store.setAuthenticated session.identity session.token ∧
      (g.act (.reply id (.login session))).2 =
        [.noted id (.loggedIn session.identity),
         .changed id (.loggedIn session.identity session.token),
         .answered id (.session (.authenticated session.identity session.token))] := by
  obtain rfl := call?_id live
  simp only [act, live, receive, stage, answer]
  exact ⟨rfl, rfl⟩

theorem act_reply_login_failed (live : g.call? id = some c)
    (stage : c.stage = .loggingIn trimmed) (e : ApiError) :
    (g.act (.reply id (.failed e))).1.store = g.store ∧
      ∃ notice err,
        (g.act (.reply id (.failed e))).2 = [.noted id notice, .answered id (.error err)] ∧
        (e.IsRefusal → err = .invalidCredentials) ∧ (¬e.IsRefusal → err = .api e) := by
  obtain rfl := call?_id live
  rw [← e.isClientError_iff]
  simp only [act, live, receive, stage, answer]
  cases e.isClientError with
  | true => exact ⟨rfl, _, _, rfl, fun _ => rfl, fun broken => absurd rfl broken⟩
  | false => exact ⟨rfl, _, _, rfl, fun refused => absurd refused Bool.false_ne_true, fun _ => rfl⟩

end Asked

/-- Once the probe has settled, a login that waits for it goes on when it runs. -/
theorem IsDisciplined.act_run_login (disciplined : g.IsDisciplined) {id : Nat}
    (live : g.call? id = some c) (request : c.request = .login identity secret)
    (waits : c.stage.awaitsProbe = true) (ended : g.IsSettled) :
    (CredentialsGiven identity secret ∧
        (g.act (.run id)).2 = [.sent id (.login (Text.trim identity) secret)]) ∨
      (¬CredentialsGiven identity secret ∧
        (g.act (.run id)).2 = [.answered id (.error .missingCredentials)]) := by
  have hidle := disciplined.not_isProbing_of_settled ended live
  obtain rfl := call?_id live
  obtain ⟨outcome, hsettled⟩ := ended
  have hrun : (g.act (.run c.id)).2 = (g.proceed c outcome).2 := by
    cases hs : c.stage with
    | ready => simp [act, live, run, hs, hsettled]
    | queued => simp [act, live, run, hs, hsettled]
    | probingIdentity => simp [hs, AuthStage.isProbing] at hidle
    | probingToken => simp [hs, AuthStage.isProbing] at hidle
    | _ => simp [hs, AuthStage.awaitsProbe, AuthStage.isProbing] at waits
  rw [hrun]
  rcases (proceeds_proceed g c outcome).login_cases live request with
    ⟨given, hes, _⟩ | ⟨missing, hes⟩
  · exact Or.inl ⟨given, hes⟩
  · exact Or.inr ⟨missing, hes⟩

/-- A step that does not end a waiting login lets it last; the others drop it or tell it that
something is missing. -/
theorem Step.ends_waiting_login (h : g.Step a g' es) {id : Nat} (live : g.call? id = some c)
    (request : c.request = .login identity secret) (waits : c.stage.awaitsProbe = true) :
    Lasts id es ∨ a = .cancel id ∨
      (¬CredentialsGiven identity secret ∧ ∃ early, (∀ e ∈ early, e.isProbes = true) ∧
        es = early ++ [.answered id (.error .missingCredentials)]) := by
  by_cases mine : id = a.caller
  · subst mine
    cases h.loginMoves live request waits with
    | waits _ _ probes => exact Or.inl (lasts_of_isProbes probes)
    | asks _ _ probes =>
      refine Or.inl (lasts_append.2 ⟨lasts_of_isProbes probes, ?_⟩)
      simp [Lasts, AuthEvent.isEnd]
    | misses missing probes => exact Or.inr (Or.inr ⟨missing, _, probes, rfl⟩)
    | dropped drops => exact Or.inr (Or.inl drops)
  · exact Or.inl fun e he _ => h.caller_ne mine e he

theorem Step.ends_asked_login (h : g.Step a g' es) {id : Nat} {trimmed : String}
    (live : g.call? id = some c) (stage : c.stage = .loggingIn trimmed) :
    Lasts id es ∨ (∃ session, a = .reply id (.login session)) ∨
      (∃ e, a = .reply id (.failed e)) ∨ a = .cancel id := by
  rcases h.lasts_or_hears live (by rw [stage]; rfl) with lasts | ⟨reply, rfl, hears⟩ | drops
  · exact Or.inl lasts
  · rw [stage] at hears
    cases reply with
    | login session => exact Or.inr (Or.inl ⟨session, rfl⟩)
    | failed e => exact Or.inr (Or.inr (Or.inl ⟨e, rfl⟩))
    | _ => cases hears
  · exact Or.inr (Or.inr (Or.inr drops))


-- ---------------------------------------------------------------------------
-- All or nothing
-- ---------------------------------------------------------------------------

/-- However other calls come and go: until it ends, a login waits for the startup probe, and all
that happened to it is the probe's, or it has asked the backend once, with the identity trimmed
and the secret as it is, if there is anything of both. A login that waits asks as soon as it runs
after the probe, and otherwise ends because it is dropped or because something is missing. A login
that has asked installs identity and token of the backend's session in one version, as a new
session, and answers just that; when the backend fails, the store stays as it is, as it does when a
login is dropped. What is written into the store is what the events report, so a login that failed
has changed nothing that is not the probe's. -/
theorem login_all_or_nothing (store : SessionStore) (earlier : List AuthAction) (id : Nat)
    (identity secret : String) (fresh : (history store earlier).1.call? id = none) :
    let started := (history store (earlier ++ [.start id (.login identity secret)])).1
    let trimmed := Text.trim identity
    let given := trimmed ≠ "" ∧ secret ≠ ""
    Text.IsTrimmed identity trimmed ∧
    (∀ during, (started.runAll during).1.store =
      started.store.replay (changesIn (started.runAll during).2)) ∧
    ∀ during, Lasts id (started.runAll during).2 →
      let g := (started.runAll during).1
      let own := ownIn id (started.runAll during).2
      ((g.act (.cancel id)).1.store = g.store ∧ (g.act (.cancel id)).2 = [.cancelled id]) ∧
      ∃ c, g.call? id = some c ∧ c.request = .login identity secret ∧
        ((c.stage.awaitsProbe = true ∧
          (∀ e ∈ own, e.isProbes = true) ∧
          (g.IsSettled →
            (given → (g.act (.run id)).2 = [.sent id (.login trimmed secret)]) ∧
            (¬given → (g.act (.run id)).2 = [.answered id (.error .missingCredentials)])) ∧
          ∀ a, Lasts id (g.act a).2 ∨ a = .cancel id ∨
            (¬given ∧ ∃ early, (∀ e ∈ early, e.isProbes = true) ∧
              (g.act a).2 = early ++ [.answered id (.error .missingCredentials)])) ∨
        (c.stage = .loggingIn trimmed ∧ given ∧
          (∃ early, (∀ e ∈ early, e.isProbes = true) ∧
            own = early ++ [.sent id (.login trimmed secret)]) ∧
          (∀ a, Lasts id (g.act a).2 ∨ (∃ session, a = .reply id (.login session)) ∨
            (∃ e, a = .reply id (.failed e)) ∨ a = .cancel id) ∧
          (∀ session,
            let next := (g.act (.reply id (.login session))).1.store
            let installed : SessionState := .authenticated session.identity session.token
            next.state = installed ∧ next.epoch = g.store.epoch + 1 ∧
              next.watched.version = g.store.watched.version + 1 ∧
              (g.act (.reply id (.login session))).2 =
                [.noted id (.loggedIn session.identity),
                 .changed id (.loggedIn session.identity session.token),
                 .answered id (.session installed)]) ∧
          ∀ e, (g.act (.reply id (.failed e))).1.store = g.store ∧
            ∃ notice err,
              (g.act (.reply id (.failed e))).2 = [.noted id notice, .answered id (.error err)] ∧
              (e.IsRefusal → err = .invalidCredentials) ∧ (¬e.IsRefusal → err = .api e))) := by
  intro started trimmed given
  refine ⟨Text.isTrimmed_trim identity, started.runAll_store, ?_⟩
  intro during lasts g own
  have hlive : started.call? id = some { id, request := .login identity secret } := by
    simp only [started, history_snoc, act, start, fresh, Option.isSome_none]
    exact call?_arrive_self fresh _
  have hdisciplined : g.IsDisciplined :=
    runAll_induct (isDisciplined_history store _) Step.isDisciplined during
  cases loginStands_runAll hlive rfl rfl lasts with
  | @waits c live request waits probes =>
    refine ⟨act_cancel_of_lastChange live (lastChange_of_awaitsProbe waits), c, live, request,
      Or.inl ⟨waits, probes, ?_, ?_⟩⟩
    · intro ended
      rcases hdisciplined.act_run_login live request waits ended with
        ⟨hgiven, hes⟩ | ⟨missing, hes⟩
      · exact ⟨fun _ => hes, fun missing => absurd hgiven missing⟩
      · exact ⟨fun hgiven => absurd hgiven missing, fun _ => hes⟩
    · exact fun a => (step_act g a).ends_waiting_login live request waits
  | @asked c early live request stage hgiven probes once =>
    refine ⟨act_cancel_of_lastChange live (by rw [stage]; rfl), c, live, request,
      Or.inr ⟨stage, hgiven, ⟨early, probes, once⟩, ?_, ?_, ?_⟩⟩
    · exact fun a => (step_act g a).ends_asked_login live stage
    · intro session next installed
      obtain ⟨hstore, hes⟩ := act_reply_login live stage session
      have hnext : next = g.store.setAuthenticated session.identity session.token := hstore
      rw [hnext]
      exact ⟨rfl, rfl, rfl, hes⟩
    · exact fun e => act_reply_login_failed live stage e

/-- The call that runs the probe is dropped, so the login that stands in the queue runs it anew and
then asks. The store is that of the probe until the backend accepts. -/
theorem login_all_or_nothing_of_probe :
    let earlier : List AuthAction := [.start 1 .logout, .run 1]
    let during : List AuthAction := [.run 2, .cancel 1, .run 2, .reply 2 (.failed .unauthorized)]
    let started := (history {} (earlier ++ [.start 2 (.login " ada\t" " ")])).1
    let g := (started.runAll during).1
    (history {} earlier).1.call? 2 = none ∧ Lasts 2 (started.runAll during).2 ∧
      g.store.state = .anonymous ∧
      (∃ early, (∀ e ∈ early, e.isProbes = true) ∧
        ownIn 2 (started.runAll during).2 = early ++ [.sent 2 (.login "ada" " ")]) ∧
      (g.act (.reply 2 (.login ⟨"ada", "new"⟩))).1.store.state = .authenticated "ada" "new" ∧
      (g.act (.reply 2 (.failed (.status 422 "")))).1.store = g.store ∧
      (∃ notice, (g.act (.reply 2 (.failed (.status 422 "")))).2 =
        [.noted 2 notice, .answered 2 (.error .invalidCredentials)]) ∧
      (g.act (.cancel 2)).1.store = g.store := by
  intro earlier during started g
  have fresh : (history {} earlier).1.call? 2 = none := by decide +kernel
  have lasts : Lasts 2 (started.runAll during).2 := by decide +kernel
  have hstate : g.store.state = .anonymous := by decide +kernel
  have htrim : Text.trim " ada\t" = "ada" := by decide +kernel
  obtain ⟨_, _, hduring⟩ := login_all_or_nothing {} earlier 2 " ada\t" " " fresh
  obtain ⟨⟨hdropped, _⟩, c, live, _, ⟨waits, _⟩ | ⟨_, _, hown, _, haccepted, hfailed⟩⟩ :=
    hduring during lasts
  · have hwaits : ((g.call? 2).any (·.stage.awaitsProbe)) = true := by
      rw [live]
      exact waits
    exact absurd hwaits (by decide +kernel)
  · obtain ⟨hkept, notice, err, hevents, hrefused, _⟩ := hfailed (.status 422 "")
    have hinvalid := hrefused (.inr ⟨422, "", rfl, by decide, by decide⟩)
    rw [htrim] at hown
    exact ⟨fresh, lasts, hstate, hown, (haccepted ⟨"ada", "new"⟩).1, hkept,
      ⟨notice, hinvalid ▸ hevents⟩, hdropped⟩

end AuthGateway

end DashboardClient
