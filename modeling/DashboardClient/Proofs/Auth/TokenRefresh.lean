import DashboardClient.Proofs.Auth.Discipline

/-!
# Fresh tokens stay in their session

A refresh remembers the epoch at which it asked for a token. Epochs only grow, so when the
token arrives under the same epoch, no session began or ended in between: the session is the
one that the token was fetched for. A session that was left and entered again, even with the
same identity, has another epoch, and the token is refused.
-/

namespace DashboardClient

namespace AuthGateway

variable {g g' : AuthGateway} {a : AuthAction} {c : AuthCall} {es : List AuthEvent}
  {outcome : Except AuthError SessionPhase}

/-- The step lets the call `id` ask for a fresh token. Before the probe has settled, it is the
probe that asks. -/
def IssuesFetch (g : AuthGateway) (a : AuthAction) (id : Nat) : Prop :=
  .sent id .token ∈ (g.act a).2 ∧ (g.act a).1.IsSettled

/-- A pending refresh was issued in the session that was authenticated then. -/
structure IsIssued (g : AuthGateway) (id epoch : Nat) : Prop where
  pending : ∃ c, g.call? id = some c ∧ c.stage = .refreshing epoch
  current : g.store.epoch = epoch
  authenticated : g.store.phase = .authenticated


-- ---------------------------------------------------------------------------
-- Issue
-- ---------------------------------------------------------------------------

theorem Step.isIssued_of_sent (h : g.Step a g' es) (disciplined : g.IsDisciplined) {id : Nat}
    (sent : .sent id .token ∈ es) (ended : g'.IsSettled) : g'.IsIssued id g'.store.epoch := by
  obtain ⟨_, early, c, _, live, hcases⟩ := h.sent_cases sent
  rcases hcases with ⟨hcall, _⟩ | ⟨_, _, identity, _, _, live'⟩ | ⟨_, stage, sends, live'⟩
  · cases hcall
  · cases (h.isDisciplined disciplined).not_isProbing_of_settled ended live'
  · generalize hr : c.request = request at sends
    cases sends with
    | refresh authenticated => exact ⟨⟨_, live', rfl⟩, rfl, authenticated⟩

/-- A call that waits for a fresh token waited for it before, or asks for it now. -/
theorem Step.refreshing_cases (h : g.Step a g' es) (disciplined : g.IsDisciplined) {id epoch : Nat}
    (live : g'.call? id = some c) (stage : c.stage = .refreshing epoch) :
    (g.call? id = some c ∧ ∀ e ∈ es, e.caller ≠ id) ∨
      (.sent id .token ∈ es ∧ g'.IsSettled ∧ g'.IsIssued id epoch) := by
  rcases h.live_cases disciplined.distinct live with hbefore | hs | hs | ⟨call, sent⟩
  · exact Or.inl hbefore
  · cases hs.symm.trans stage
  · cases hs.symm.trans stage
  · refine Or.inr ?_
    obtain ⟨_, early, d, _, _, hcases⟩ := h.sent_cases sent
    rcases hcases with
      ⟨_, _, live', _⟩ | ⟨_, _, identity, _, _, live'⟩ | ⟨ended, stage', sends, live'⟩
    · obtain rfl := Option.some.inj (live'.symm.trans live)
      cases stage
    · obtain rfl := Option.some.inj (live'.symm.trans live)
      cases stage
    · obtain rfl := Option.some.inj (live'.symm.trans live)
      obtain rfl : stage' = .refreshing epoch := stage
      generalize d.request = request at sends
      cases sends with
      | refresh => exact ⟨sent, ended, h.isIssued_of_sent disciplined sent ended⟩

/-- A pending refresh looks back at the step that issued it. -/
theorem issued_of_refreshing (store : SessionStore) {actions : List AuthAction} {id epoch : Nat}
    (live : (history store actions).1.call? id = some c) (stage : c.stage = .refreshing epoch) :
    ∃ earlier issue meanwhile, actions = earlier ++ issue :: meanwhile ∧
      (history store earlier).1.IssuesFetch issue id ∧
      (history store (earlier ++ [issue])).1.IsIssued id epoch ∧
      ∀ e ∈ ((history store (earlier ++ [issue])).1.runAll meanwhile).2, e.caller ≠ id := by
  induction actions using List.reverseRecOn generalizing c with
  | nil => cases live
  | append_singleton actions a ih =>
    rw [history_snoc] at live
    rcases (step_act _ a).refreshing_cases (isDisciplined_history store actions) live stage with
      ⟨hlive, hquiet⟩ | ⟨hsent, hover, hissued⟩
    · obtain ⟨earlier, issue, meanwhile, rfl, hissues, hissued, hidle⟩ := ih hlive stage
      refine ⟨earlier, issue, meanwhile ++ [a], by simp, hissues, hissued, ?_⟩
      have hstate : (history store (earlier ++ issue :: meanwhile)).1 =
          ((history store (earlier ++ [issue])).1.runAll meanwhile).1 := by
        rw [List.append_cons, history_append]
      rw [runAll_snoc, ← hstate]
      intro e he
      rcases List.mem_append.1 he with he | he
      · exact hidle e he
      · exact hquiet e he
    · refine ⟨actions, a, [], rfl, ⟨hsent, hover⟩, ?_, by simp [runAll]⟩
      rw [history_snoc]
      exact hissued


-- ---------------------------------------------------------------------------
-- Return
-- ---------------------------------------------------------------------------

theorem Proceeds.not_mem_token (h : g.Proceeds c outcome g' es) (id : Nat) (token : String) :
    .answered id (.token token) ∉ es := by
  cases h with
  | decline declines =>
    generalize c.request = request at declines
    cases declines <;> simp
  | send => simp

/-- A call answers a token only when the token arrives in the epoch it was asked for. -/
theorem Step.token_cases (h : g.Step a g' es) {id : Nat} {token : String}
    (answered : .answered id (.token token) ∈ es) :
    ∃ c identity old, g.call? id = some c ∧ c.stage = .refreshing g.store.epoch ∧
      g.store.state = .authenticated identity old ∧
      es = [.changed id (.tokenReplaced token), .answered id (.token token)] := by
  cases h with
  | proceed live stage ended proceeds => exact absurd answered (proceeds.not_mem_token id token)
  | settle live ends proceeds =>
    simp only [List.mem_cons, reduceCtorEq, false_or] at answered
    exact absurd answered (proceeds.not_mem_token id token)
  | finish live finishes =>
    generalize hstage : AuthCall.stage _ = stage at finishes
    cases finishes with
    | refreshed authenticated =>
      simp only [List.cons_append, List.nil_append, List.mem_cons, reduceCtorEq,
        AuthEvent.answered.injEq, AuthAnswer.token.injEq, List.not_mem_nil, or_false,
        false_or] at answered
      obtain ⟨rfl, rfl⟩ := answered
      exact ⟨_, _, _, live, hstage, authenticated, rfl⟩
    | _ => simp at answered
  | abandon => simp at answered
  | withdraw => simp at answered
  | _ => simp at answered

/-- A token that arrives in another epoch is refused. -/
theorem act_reply_token_of_epoch_ne {id epoch : Nat} {token : String}
    (live : g.call? id = some c) (stage : c.stage = .refreshing epoch)
    (ended : g.store.epoch ≠ epoch) :
    g.act (.reply id (.token token)) =
      (g.remove c, [.noted id .tokenOutlived, .answered id (.error .notAuthenticated)]) := by
  obtain rfl := call?_id live
  have hrefused : g.store.replaceToken epoch token = (false, g.store) := by
    rcases g.store.replaceToken_cases epoch token with ⟨_, _, _, hepoch, _⟩ | ⟨_, hrefused⟩
    · exact absurd hepoch ended
    · exact hrefused
  simp [act, live, receive, stage, installToken, hrefused, answer]

/-- Dropping a refresh does nothing to the session. -/
theorem IsDisciplined.lastChange_of_refresh (h : g.IsDisciplined) {id : Nat}
    (live : g.call? id = some c) (request : c.request = .refreshToken) :
    c.stage.lastChange = none := by
  have hadmits := h.admitted live
  unfold Admits at hadmits
  cases hs : c.stage with
  | loggingOut => simp [hs, request] at hadmits
  | _ => rfl

/-- A refresh writes the store when it ends the probe, and when it answers its token. -/
theorem Step.store_of_refresh (h : g.Step a g' es) (disciplined : g.IsDisciplined)
    (live : g.call? a.caller = some c) (request : c.request = .refreshToken) :
    g'.store = g.store ∨
      (∃ change, change.isProbes = true ∧ .changed a.caller change ∈ es ∧
        g'.store = change.commit g.store) ∨
      ∃ token,
        es = [.changed a.caller (.tokenReplaced token), .answered a.caller (.token token)] := by
  cases h with
  | proceed _ _ _ proceeds => exact Or.inl proceeds.store_eq
  | settle _ ends proceeds =>
    refine Or.inr (Or.inl ⟨_, ends.isProbes, ?_, proceeds.store_eq⟩)
    exact List.mem_cons_of_mem _ List.mem_cons_self
  | finish hlive finishes =>
    obtain rfl := Option.some.inj (hlive.symm.trans live)
    have hadmits := disciplined.admitted live
    unfold Admits at hadmits
    generalize AuthCall.stage _ = stage at hadmits finishes
    cases finishes with
    | loggedIn => simp [request] at hadmits
    | loggedOut => simp [request] at hadmits
    | logoutFailed => simp [request] at hadmits
    | refreshed => exact Or.inr (Or.inr ⟨_, rfl⟩)
    | _ => exact Or.inl rfl
  | abandon hlive =>
    obtain rfl := Option.some.inj (hlive.symm.trans live)
    have hnone := disciplined.lastChange_of_refresh live request
    exact Or.inl (by simp [finished, hnone, SessionStore.after])
  | withdraw hlive =>
    obtain rfl := Option.some.inj (hlive.symm.trans live)
    have hnone := disciplined.lastChange_of_refresh live request
    exact Or.inl (by simp [finished, hnone, SessionStore.after])
  | _ => exact Or.inl rfl

/-- A refresh that does not answer a token writes nothing of its own. -/
theorem Step.store_of_failed_refresh (h : g.Step a g' es) (disciplined : g.IsDisciplined)
    (live : g.call? a.caller = some c) (request : c.request = .refreshToken)
    (without : ∀ token, .answered a.caller (.token token) ∉ es) :
    g'.store = g.store ∨
      ∃ change, change.isProbes = true ∧ .changed a.caller change ∈ es ∧
        g'.store = change.commit g.store := by
  rcases h.store_of_refresh disciplined live request with hsame | hprobe | ⟨token, rfl⟩
  · exact Or.inl hsame
  · exact Or.inr hprobe
  · exact absurd (List.mem_cons_of_mem _ List.mem_cons_self) (without token)


-- ---------------------------------------------------------------------------
-- Runs around a refresh
-- ---------------------------------------------------------------------------

/-- While the epoch of a refresh lasts, so does the session. -/
theorem IsIssued.session_lasts {id epoch : Nat} (h : g.IsIssued id epoch)
    {meanwhile : List AuthAction} (same : (g.runAll meanwhile).1.store.epoch = epoch) :
    (∀ change ∈ changesIn (g.runAll meanwhile).2, ¬change.isBoundary) ∧
      ∃ identity old now, g.store.state = .authenticated identity old ∧
        (g.runAll meanwhile).1.store.state = .authenticated identity now := by
  have hinside : ∀ change ∈ changesIn (g.runAll meanwhile).2, ¬change.isBoundary := by
    rw [← SessionStore.replay_epoch_eq_iff, ← runAll_store, same, h.current]
  obtain ⟨identity, old, hold⟩ := (SessionStore.phase_eq_authenticated_iff _).1 h.authenticated
  obtain ⟨now, hnow⟩ := SessionStore.replay_of_not_boundary hinside hold
  rw [← runAll_store] at hnow
  exact ⟨hinside, identity, old, now, hold, hnow⟩

/-- After a boundary, a refresh that was issued before it gets no token. -/
theorem IsIssued.act_reply_token {id epoch : Nat} (h : g.IsIssued id epoch)
    {meanwhile : List AuthAction} (lasts : Lasts id (g.runAll meanwhile).2)
    (crossed : ∃ change ∈ changesIn (g.runAll meanwhile).2, change.isBoundary) (token : String) :
    ∃ c, (g.runAll meanwhile).1.act (.reply id (.token token)) =
      ((g.runAll meanwhile).1.remove c,
       [.noted id .tokenOutlived, .answered id (.error .notAuthenticated)]) := by
  obtain ⟨c, live, stage⟩ := h.pending
  have hpending := (pending_of_runAll_lasts live (by rw [stage]; rfl) lasts).1
  refine ⟨c, act_reply_token_of_epoch_ne hpending stage ?_⟩
  obtain ⟨change, hmem, hboundary⟩ := crossed
  rw [← h.current, runAll_store, Ne, SessionStore.replay_epoch_eq_iff]
  exact fun hinside => hinside change hmem hboundary

/-- While a refresh lasts, and when it fails, all that its steps write is the end of the
probe. -/
theorem store_of_runAll_failed_refresh (disciplined : g.IsDisciplined) {id : Nat}
    (live : g.call? id = some c) (request : c.request = .refreshToken)
    {during : List AuthAction} (lasts : Lasts id (g.runAll during).2)
    (without : ∀ token, .answered id (.token token) ∉ ((g.runAll during).1.act a).2)
    (own : a.caller = id) :
    ((g.runAll during).1.act a).1.store = (g.runAll during).1.store ∨
      ∃ change, change.isProbes = true ∧ .changed id change ∈ ((g.runAll during).1.act a).2 ∧
        ((g.runAll during).1.act a).1.store = change.commit (g.runAll during).1.store := by
  subst own
  obtain ⟨c', hlive, hrequest⟩ := live_of_runAll_lasts live lasts
  have hdisciplined : (g.runAll during).1.IsDisciplined :=
    runAll_induct disciplined Step.isDisciplined during
  exact (step_act _ a).store_of_failed_refresh hdisciplined hlive (hrequest.trans request) without

/-- A call that answers a token answers nothing else in that step, and is not dropped. -/
theorem Step.fails_without_token (h : g.Step a g' es) {id : Nat}
    (fails : .cancelled id ∈ es ∨ ∃ e, .answered id (.error e) ∈ es) (token : String) :
    .answered id (.token token) ∉ es := by
  intro answered
  obtain ⟨_, _, _, _, _, _, rfl⟩ := h.token_cases answered
  rcases fails with hcancelled | ⟨e, herror⟩
  · simp at hcancelled
  · simp at herror

/-- A refresh that fails in its last step leaves the store alone in every step of its own, but
for the end of the probe. -/
theorem store_of_failed_refresh (disciplined : g.IsDisciplined) {id : Nat}
    (live : g.call? id = some c) (request : c.request = .refreshToken)
    {during first rest : List AuthAction} {last a : AuthAction}
    (lasts : Lasts id (g.runAll during).2)
    (fails : .cancelled id ∈ ((g.runAll during).1.act last).2 ∨
      ∃ e, .answered id (.error e) ∈ ((g.runAll during).1.act last).2)
    (split : during ++ [last] = first ++ a :: rest) (own : a.caller = id) :
    ((g.runAll first).1.act a).1.store = (g.runAll first).1.store ∨
      ∃ change, change.isProbes = true ∧ .changed id change ∈ ((g.runAll first).1.act a).2 ∧
        ((g.runAll first).1.act a).1.store = change.commit (g.runAll first).1.store := by
  rcases List.eq_nil_or_concat rest with rfl | ⟨rest, last', rfl⟩
  · obtain ⟨rfl, rfl⟩ := List.append_singleton_inj.1 split
    exact store_of_runAll_failed_refresh disciplined live request lasts
      ((step_act _ last).fails_without_token fails) own
  · -- A step before the last one ends nothing.
    have hduring : during = first ++ [a] ++ rest := by
      rw [List.concat_eq_append, ← List.cons_append, ← List.append_assoc] at split
      exact (List.append_singleton_inj.1 split).1.trans (List.append_cons _ _ _)
    rw [hduring, runAll_append, runAll_snoc, lasts_append, lasts_append] at lasts
    refine store_of_runAll_failed_refresh disciplined live request lasts.1.1 ?_ own
    intro token answered
    exact not_lasts answered rfl rfl lasts.1.2

/-- A fresh token is installed only in the session it was fetched for. A refresh that answers a
token fetched it in the session that still lasts; a refresh whose session ended in the meantime
answers that there is none; and a refresh that fails or is dropped leaves the store alone, but
for the end of the startup probe if that fell to it. -/
theorem token_stays_in_its_session (store : SessionStore) :
    (∀ before a id token,
      .answered id (.token token) ∈ ((history store before).1.act a).2 →
      ∃ earlier issue meanwhile identity old, before = earlier ++ issue :: meanwhile ∧
        (history store earlier).1.IssuesFetch issue id ∧
        let issued := (history store (earlier ++ [issue])).1
        let returned := (history store (before ++ [a])).1
        (∀ e ∈ (issued.runAll meanwhile).2, e.caller ≠ id) ∧
        (∀ change ∈ changesIn (issued.runAll (meanwhile ++ [a])).2, ¬change.isBoundary) ∧
        issued.store.state = .authenticated identity old ∧
        returned.store.state = .authenticated identity token ∧
        returned.store.epoch = issued.store.epoch) ∧
    (∀ earlier issue meanwhile id token,
      (history store earlier).1.IssuesFetch issue id →
      let issued := (history store (earlier ++ [issue])).1
      let g := (issued.runAll meanwhile).1
      Lasts id (issued.runAll meanwhile).2 →
      (∃ change ∈ changesIn (issued.runAll meanwhile).2, change.isBoundary) →
      .answered id (.error .notAuthenticated) ∈ (g.act (.reply id (.token token))).2 ∧
        (g.act (.reply id (.token token))).1.store = g.store) ∧
    (∀ earlier id during last, (history store earlier).1.call? id = none →
      let started := (history store (earlier ++ [.start id .refreshToken])).1
      Lasts id (started.runAll during).2 →
      (.cancelled id ∈ ((started.runAll during).1.act last).2 ∨
        ∃ e, .answered id (.error e) ∈ ((started.runAll during).1.act last).2) →
      ∀ first a rest, during ++ [last] = first ++ a :: rest → a.caller = id →
        let g := (started.runAll first).1
        (g.act a).1.store = g.store ∨
          ∃ change, change.isProbes ∧ .changed id change ∈ (g.act a).2 ∧
            (g.act a).1.store = change.commit g.store) := by
  refine ⟨?_, ?_, ?_⟩
  · intro before a id token answered
    obtain ⟨c, identity, now, live, stage, hnow, hes⟩ := (step_act _ a).token_cases answered
    obtain ⟨earlier, issue, meanwhile, rfl, hissues, hissued, hidle⟩ :=
      issued_of_refreshing store live stage
    have hreach : (history store (earlier ++ issue :: meanwhile)).1 =
        ((history store (earlier ++ [issue])).1.runAll meanwhile).1 := by
      rw [List.append_cons, history_append]
    have hsame : ((history store (earlier ++ [issue])).1.runAll meanwhile).1.store.epoch =
        (history store (earlier ++ issue :: meanwhile)).1.store.epoch := by
      rw [hreach]
    obtain ⟨hinside, identity', old, now', hold, hnow'⟩ := hissued.session_lasts hsame
    rw [← hreach, hnow] at hnow'
    obtain ⟨rfl, rfl⟩ := SessionState.authenticated.inj hnow'
    have hreturned := (step_act (history store (earlier ++ issue :: meanwhile)).1 a).store_eq
    rw [hes] at hreturned
    refine ⟨earlier, issue, meanwhile, identity, old, rfl, hissues, hidle, ?_, hold, ?_, ?_⟩
    · rw [runAll_snoc, ← hreach, hes]
      intro change hchange
      rcases List.mem_append.1 (changesIn_append _ _ ▸ hchange) with hchange | hchange
      · exact hinside change hchange
      · obtain rfl := List.mem_singleton.1 hchange
        exact Bool.false_ne_true
    · rw [history_snoc, hreturned, SessionStore.replay_state, hnow]
      rfl
    · rw [history_snoc, hreturned, SessionStore.replay_epoch, hissued.current]
      rfl
  · intro earlier issue meanwhile id token hissues issued g lasts crossed
    have hissued : issued.IsIssued id issued.store.epoch := by
      have hstep := step_act (history store earlier).1 issue
      simp only [issued, history_snoc]
      exact hstep.isIssued_of_sent (isDisciplined_history store earlier) hissues.1 hissues.2
    obtain ⟨c, hact⟩ := hissued.act_reply_token lasts crossed token
    simp only [g, hact]
    exact ⟨List.mem_cons_of_mem _ List.mem_cons_self, rfl⟩
  · intro earlier id during last fresh started lasts fails first a rest hsplit own
    have hlive : started.call? id = some { id, request := .refreshToken } := by
      simp only [started, history_snoc, act, start, fresh, Option.isSome_none]
      exact call?_arrive_self fresh .refreshToken
    have hdisciplined : started.IsDisciplined := isDisciplined_history store _
    exact store_of_failed_refresh hdisciplined hlive rfl lasts fails hsplit own

/-- A refresh that also ran the probe gets its token although another refresh is dropped
meanwhile, and it gets none after a logout. -/
theorem token_refused_after_logout :
    let probed : List AuthAction := [.start 1 .refreshToken, .run 1, .reply 1 (.identity "ada")]
    let issue : AuthAction := .reply 1 (.token "old")
    let issued := (history {} (probed ++ [issue])).1
    let joined := (history {} (probed ++ [issue] ++ [.start 2 .refreshToken])).1
    let leaves : List AuthAction := [.start 3 .logout, .run 3, .reply 3 .loggedOut]
    (∃ earlier issue identity old, (history {} earlier).1.IssuesFetch issue 1 ∧
      (history {} (earlier ++ [issue])).1.store.state = .authenticated identity old ∧
      (joined.act (.reply 1 (.token "new"))).1.store.state = .authenticated identity "new") ∧
    .answered 1 (.error .notAuthenticated) ∈
      ((issued.runAll leaves).1.act (.reply 1 (.token "new"))).2 ∧
    ((joined.runAll [.run 2]).1.act (.cancel 2)).1.store = (joined.runAll [.run 2]).1.store := by
  intro probed issue issued joined leaves
  refine ⟨?_, ?_, ?_⟩
  · have hanswered : .answered 1 (.token "new") ∈
        ((history {} (probed ++ [issue] ++ [.start 2 .refreshToken])).1.act
          (.reply 1 (.token "new"))).2 :=
      List.mem_cons_of_mem _ List.mem_cons_self
    obtain ⟨earlier, issue, _, identity, old, _, hissues, _, _, hold, hnow, _⟩ :=
      (token_stays_in_its_session {}).1 _ _ 1 "new" hanswered
    exact ⟨earlier, issue, identity, old, hissues, hold, hnow⟩
  · have hissues : (history {} probed).1.IssuesFetch issue 1 :=
      ⟨List.mem_cons_of_mem _ (List.mem_cons_of_mem _ List.mem_cons_self), _, rfl⟩
    exact ((token_stays_in_its_session {}).2.1 probed issue leaves 1 "new" hissues
      (by decide +kernel) ⟨.loggedOut, List.mem_cons_self, rfl⟩).1
  · have hstore := (token_stays_in_its_session {}).2.2 (probed ++ [issue]) 2 [.run 2] (.cancel 2)
      rfl (by decide +kernel) (Or.inl List.mem_cons_self) [.run 2] (.cancel 2) [] rfl rfl
    rcases hstore with hsame | ⟨change, _, hchange, _⟩
    · exact hsame
    · cases List.mem_singleton.1 hchange

end AuthGateway

end DashboardClient
