import DashboardClient.Proofs.Auth.Discipline

/-!
# Logouts clear the session

A logout that has asked the backend ends in one of three ways: the backend acknowledges it,
the backend fails, or the call is dropped. Each of them resets the session in the very step
that ends the call, and until then the call does nothing. A logout that is dropped while it
waits for the startup probe has asked for nothing and has left the session alone.
-/

namespace DashboardClient

/-- The call at this stage waits for the startup probe, or runs it. -/
def AuthStage.awaitsProbe : AuthStage → Bool
  | .ready => true
  | .queued => true
  | stage => stage.isProbing

/-- The steps that end a logout which has asked the backend, and what its caller gets. -/
inductive EndsLogout (id : Nat) : AuthAction → AuthEvent → Prop where
  | acknowledged : EndsLogout id (.reply id .loggedOut) (.answered id .loggedOut)
  | failed (e : ApiError) :
    EndsLogout id (.reply id (.failed e)) (.answered id (.error (.api e)))
  | dropped : EndsLogout id (.cancel id) (.cancelled id)

theorem SessionState.token?_eq_none_iff (state : SessionState) :
    state.token? = none ↔ state.phase ≠ .authenticated := by
  cases state <;> simp [token?, phase]

namespace AuthGateway

variable {g g' : AuthGateway} {a : AuthAction} {c : AuthCall} {es : List AuthEvent}

-- ---------------------------------------------------------------------------
-- A logout that has asked the backend
-- ---------------------------------------------------------------------------

/-- Only a logout asks the backend for one, with the token of the session as it then is. -/
theorem Step.asks_logout (h : g.Step a g' es) {id : Nat} {token : Option String}
    (sent : .sent id (.logout token) ∈ es) :
    (∃ early, es = early ++ [.sent id (.logout token)]) ∧ token = g'.store.token? ∧
      ∃ c, g'.call? id = some c ∧ c.request = .logout ∧ c.stage = .loggingOut := by
  obtain ⟨_, early, c, hes, _, hcases⟩ := h.sent_cases sent
  rcases hcases with ⟨hcall, _⟩ | ⟨hcall, _⟩ | ⟨_, stage, sends, live⟩
  · cases hcall
  · cases hcall
  · refine ⟨⟨early, hes⟩, ?_⟩
    generalize hr : c.request = request at sends
    cases sends with
    | logout => exact ⟨rfl, _, live, hr, rfl⟩

/-- Such a logout goes on waiting, or the step is one of those that end it. -/
theorem Step.lasts_or_endsLogout (h : g.Step a g' es) {id : Nat} (live : g.call? id = some c)
    (stage : c.stage = .loggingOut) : Lasts id es ∨ ∃ last, EndsLogout id a last := by
  rcases h.lasts_or_hears live (by rw [stage]; rfl) with lasts | ⟨reply, rfl, hears⟩ | rfl
  · exact Or.inl lasts
  · rw [stage] at hears
    cases reply with
    | loggedOut => exact Or.inr ⟨_, .acknowledged⟩
    | failed e => exact Or.inr ⟨_, .failed e⟩
    | _ => cases hears
  · exact Or.inr ⟨_, .dropped⟩

/-- Each end of such a logout resets the session first of all. -/
theorem Step.clears_session (h : g.Step a g' es) (distinct : (g.calls.map (·.id)).Nodup)
    {id : Nat} (live : g.call? id = some c) (stage : c.stage = .loggingOut) {last : AuthEvent}
    (ends : EndsLogout id a last) :
    g'.store = g.store.resetAnonymous ∧ g'.call? id = none ∧
      ∃ notice : Option AuthNotice,
        es = .changed id .loggedOut :: (notice.map (.noted id)).toList ++ [last] := by
  have hgone {d : AuthCall} (hd : g.call? d.id = some d) : (g.remove d).call? d.id = none :=
    call?_remove_self distinct
  have hheard {reply : BackendReply} (hears : AuthStage.loggingOut.hears reply = true) :
      ¬g.Ignores (.reply id reply) := by
    intro ignored
    have hdeaf := ignored c live
    rw [stage, hears] at hdeaf
    cases hdeaf
  cases ends with
  | acknowledged =>
    cases h with
    | stay ignored => exact absurd ignored (hheard rfl)
    | settle hlive ends =>
      obtain rfl := Option.some.inj (hlive.symm.trans live)
      rw [stage] at ends
      cases ends
    | finish hlive finishes =>
      obtain rfl := Option.some.inj (hlive.symm.trans live)
      rw [stage] at finishes
      cases finishes
      exact ⟨rfl, hgone live, some .loggedOut, rfl⟩
  | failed e =>
    cases h with
    | stay ignored => exact absurd ignored (hheard rfl)
    | settle hlive ends =>
      obtain rfl := Option.some.inj (hlive.symm.trans live)
      rw [stage] at ends
      cases ends
    | finish hlive finishes =>
      obtain rfl := Option.some.inj (hlive.symm.trans live)
      rw [stage] at finishes
      cases finishes
      exact ⟨rfl, hgone live, some (.logoutFailed e), rfl⟩
  | dropped =>
    cases h with
    | stay ignored => cases ignored.symm.trans live
    | abandon hlive =>
      obtain rfl := Option.some.inj (hlive.symm.trans live)
      rw [stage]
      exact ⟨handOver_store _, (handOver_call? _ _).trans (hgone live), none, rfl⟩
    | withdraw hlive =>
      obtain rfl := Option.some.inj (hlive.symm.trans live)
      rw [stage]
      exact ⟨rfl, hgone live, none, rfl⟩


-- ---------------------------------------------------------------------------
-- A logout that waits for the probe
-- ---------------------------------------------------------------------------

theorem awaitsProbe_of_ne (disciplined : g.IsDisciplined) {id : Nat} (live : g.call? id = some c)
    (request : c.request = .logout) (unasked : c.stage ≠ .loggingOut) :
    c.stage.awaitsProbe = true := by
  have hadmits := disciplined.admitted live
  unfold Admits at hadmits
  cases hs : c.stage with
  | loggingOut => exact absurd hs unasked
  | loggingIn identity => simp [hs, request] at hadmits
  | refreshing epoch => simp [hs, request] at hadmits
  | _ => rfl

/-- While a logout still waits for the probe, its steps ask for no logout and leave the
session alone. -/
theorem Step.waits_unchanged (h : g.Step a g' es) {id : Nat} {c' : AuthCall}
    (live : g.call? id = some c) (request : c.request = .logout) (lasts : Lasts id es)
    (live' : g'.call? id = some c') (waits : c'.stage.awaitsProbe = true) :
    c.stage ≠ .loggingOut ∧ (∀ token, .sent id (.logout token) ∉ es) ∧
      (a.caller = id → g'.store = g.store) := by
  have hunasked {d : AuthCall} (hd : g'.call? id = some d) : d.stage ≠ .loggingOut := by
    obtain rfl := Option.some.inj (hd.symm.trans live')
    intro hs
    rw [hs] at waits
    cases waits
  have hunsent (token : Option String) : .sent id (.logout token) ∉ es := by
    intro sent
    obtain ⟨_, _, d, hd, _, hs⟩ := h.asks_logout sent
    exact hunasked hd hs
  refine ⟨?_, hunsent, ?_⟩
  · intro hs
    exact hunasked (h.pending_of_lasts live (by rw [hs]; rfl) lasts).1 hs
  · rintro rfl
    cases h with
    | proceed _ _ _ proceeds => exact proceeds.store_eq
    | settle hlive _ proceeds =>
      -- The probe has just settled, and a logout goes on to ask for itself at once.
      obtain rfl := Option.some.inj (hlive.symm.trans live)
      cases proceeds with
      | decline declines =>
        rw [request] at declines
        cases declines
      | send sends =>
        rw [request] at sends
        cases sends with
        | logout =>
          exfalso
          apply hunsent
          exact List.mem_cons_of_mem _ (List.mem_cons_of_mem _ List.mem_cons_self)
    | finish => exact absurd lasts (not_lasts_snoc rfl rfl)
    | abandon => exact absurd lasts (not_lasts_snoc rfl rfl)
    | withdraw => exact absurd lasts (not_lasts_snoc rfl rfl)
    | _ => rfl

/-- A call that is dropped leaves the session alone, unless it is a logout that has asked the
backend. -/
theorem act_cancel_of_lastChange {id : Nat} (live : g.call? id = some c)
    (harmless : c.stage.lastChange = none) :
    (g.act (.cancel id)).1.store = g.store ∧ (g.act (.cancel id)).2 = [.cancelled id] := by
  have hstep := step_act g (.cancel id)
  generalize (g.act (.cancel id)).1 = g' at hstep ⊢
  generalize (g.act (.cancel id)).2 = es at hstep ⊢
  cases hstep with
  | stay ignored => cases ignored.symm.trans live
  | abandon hlive =>
    obtain rfl := Option.some.inj (hlive.symm.trans live)
    simp [harmless, finished, SessionStore.after]
  | withdraw hlive =>
    obtain rfl := Option.some.inj (hlive.symm.trans live)
    simp [harmless, finished, SessionStore.after]

theorem lastChange_of_awaitsProbe {stage : AuthStage} (waits : stage.awaitsProbe = true) :
    stage.lastChange = none := by
  cases stage with
  | loggingOut => cases waits
  | _ => rfl

theorem runAll_waits_unchanged {id : Nat} {c' : AuthCall} (live : g.call? id = some c)
    (request : c.request = .logout) (disciplined : g.IsDisciplined) {actions : List AuthAction}
    (lasts : Lasts id (g.runAll actions).2) (live' : (g.runAll actions).1.call? id = some c')
    (waits : c'.stage.awaitsProbe = true) :
    (∀ token, .sent id (.logout token) ∉ (g.runAll actions).2) ∧
      ∀ first a rest, actions = first ++ a :: rest → a.caller = id →
        ((g.runAll first).1.act a).1.store = (g.runAll first).1.store := by
  induction actions using List.reverseRecOn generalizing c' with
  | nil =>
    refine ⟨fun _ => List.not_mem_nil, ?_⟩
    intro first a rest hsplit
    cases first <;> cases hsplit
  | append_singleton actions last ih =>
    rw [runAll_snoc, lasts_append] at lasts
    rw [runAll_snoc] at live' ⊢
    obtain ⟨d, hd, hrequest⟩ := live_of_runAll_lasts live lasts.1
    obtain ⟨hunasked, hunsent, hkept⟩ := (step_act _ last).waits_unchanged hd
      (hrequest.trans request) lasts.2 live' waits
    have hdisciplined : (g.runAll actions).1.IsDisciplined :=
      runAll_induct disciplined Step.isDisciplined actions
    have hwaits := awaitsProbe_of_ne hdisciplined hd (hrequest.trans request) hunasked
    obtain ⟨hunsent', hkept'⟩ := ih lasts.1 hd hwaits
    refine ⟨?_, ?_⟩
    · intro token sent
      rcases List.mem_append.1 sent with sent | sent
      · exact hunsent' token sent
      · exact hunsent token sent
    · intro first a rest hsplit own
      rcases List.eq_nil_or_concat rest with rfl | ⟨rest, last', rfl⟩
      · obtain ⟨rfl, rfl⟩ := List.append_singleton_inj.1 hsplit
        exact hkept own
      · rw [List.concat_eq_append, ← List.cons_append, ← List.append_assoc] at hsplit
        exact hkept' first a rest (List.append_singleton_inj.1 hsplit).1 own


-- ---------------------------------------------------------------------------
-- Logouts clear the session
-- ---------------------------------------------------------------------------

/-- From the step in which a logout asks the backend, with the token of the session as it is
then, the call does nothing until one of three steps ends it: the backend acknowledges the
logout, fails, or the call is dropped. That step resets the session before all else, and the
caller hears what the backend said. A logout that is dropped while it waits for the startup
probe has asked for no logout, and none of its steps has touched the session. -/
theorem logout_clears_once (store : SessionStore) :
    (∀ before a id token,
      .sent id (.logout token) ∈ ((history store before).1.act a).2 →
      let asked := (history store (before ++ [a])).1
      (∃ early, ((history store before).1.act a).2 = early ++ [.sent id (.logout token)]) ∧
      (∃ c, asked.call? id = some c ∧ c.request = .logout) ∧
      token = asked.store.token? ∧ (token = none ↔ asked.store.phase ≠ .authenticated) ∧
      ∀ meanwhile, Lasts id (asked.runAll meanwhile).2 →
        let g := (asked.runAll meanwhile).1
        (∀ e ∈ (asked.runAll meanwhile).2, e.caller ≠ id) ∧
        (∀ a, Lasts id (g.act a).2 ∨ ∃ last, EndsLogout id a last) ∧
        ∀ a last, EndsLogout id a last →
          (g.act a).1.store = g.store.resetAnonymous ∧
          (g.act a).1.store.state = .anonymous ∧
          (g.act a).1.store.epoch = g.store.epoch + 1 ∧
          (g.act a).1.call? id = none ∧
          ∃ notice : Option AuthNotice,
            (g.act a).2 = .changed id .loggedOut :: (notice.map (.noted id)).toList ++ [last]) ∧
    (∀ earlier id during c, (history store earlier).1.call? id = none →
      let started := (history store (earlier ++ [.start id .logout])).1
      Lasts id (started.runAll during).2 →
      (started.runAll during).1.call? id = some c → c.stage.awaitsProbe →
      ((started.runAll during).1.act (.cancel id)).2 = [.cancelled id] ∧
      (∀ token, .sent id (.logout token) ∉ (started.runAll during).2) ∧
      ∀ first a rest, during ++ [.cancel id] = first ++ a :: rest → a.caller = id →
        ((started.runAll first).1.act a).1.store = (started.runAll first).1.store) := by
  refine ⟨?_, ?_⟩
  · intro before a id token sent asked
    have hasked : asked = ((history store before).1.act a).1 := by
      simp only [asked, history_snoc]
    obtain ⟨hlast, htoken, c, live, request, stage⟩ := (step_act _ a).asks_logout sent
    rw [← hasked] at htoken live
    refine ⟨hlast, ⟨c, live, request⟩, htoken, ?_, ?_⟩
    · rw [htoken]
      exact SessionState.token?_eq_none_iff asked.store.state
    · intro meanwhile lasts g
      have hdisciplined : g.IsDisciplined :=
        runAll_induct (isDisciplined_history store _) Step.isDisciplined meanwhile
      obtain ⟨hlive, hquiet⟩ := pending_of_runAll_lasts live (by rw [stage]; rfl) lasts
      refine ⟨hquiet, fun a => (step_act g a).lasts_or_endsLogout hlive stage, ?_⟩
      intro a last ends
      obtain ⟨hstore, hgone, hevents⟩ :=
        (step_act g a).clears_session hdisciplined.distinct hlive stage ends
      refine ⟨hstore, ?_, ?_, hgone, hevents⟩
      · rw [hstore]
        rfl
      · rw [hstore]
        rfl
  · intro earlier id during c fresh started lasts live waits
    have hlive : started.call? id = some { id, request := .logout } := by
      simp only [started, history_snoc, act, start, fresh, Option.isSome_none]
      exact call?_arrive_self fresh .logout
    have hdisciplined : started.IsDisciplined := isDisciplined_history store _
    obtain ⟨hunsent, hkept⟩ := runAll_waits_unchanged hlive rfl hdisciplined lasts live waits
    obtain ⟨hstore, hevents⟩ := act_cancel_of_lastChange live (lastChange_of_awaitsProbe waits)
    refine ⟨hevents, hunsent, ?_⟩
    intro first a rest hsplit own
    rcases List.eq_nil_or_concat rest with rfl | ⟨rest, last, rfl⟩
    · obtain ⟨rfl, rfl⟩ := List.append_singleton_inj.1 hsplit
      exact hstore
    · rw [List.concat_eq_append, ← List.cons_append, ← List.append_assoc] at hsplit
      exact hkept first a rest (List.append_singleton_inj.1 hsplit).1 own

/-- A logout that had to run the probe is dropped, or fails, after somebody else logged in
meanwhile; another one is dropped while it still stands in the queue. -/
theorem logout_clears_later_login :
    let before : List AuthAction :=
      [.start 1 .logout, .run 1, .start 2 (.login "bob" "secret"), .run 2,
       .reply 1 (.identity "ada")]
    let asks : AuthAction := .reply 1 (.token "old")
    let meanwhile : List AuthAction := [.run 2, .reply 2 (.login ⟨"bob", "new"⟩)]
    let g := ((history {} (before ++ [asks])).1.runAll meanwhile).1
    let queued := ((history {} (before ++ [.start 3 .logout])).1.runAll [.run 3, asks]).1
    .sent 1 (.logout (some "old")) ∈ ((history {} before).1.act asks).2 ∧
      g.store.state = .authenticated "bob" "new" ∧
      (g.act (.cancel 1)).1.store.state = .anonymous ∧
      (g.act (.cancel 1)).1.store.epoch = 3 ∧
      (∃ notice : Option AuthNotice, (g.act (.reply 1 (.failed .unauthorized))).2 =
        .changed 1 .loggedOut :: (notice.map (.noted 1)).toList ++
          [.answered 1 (.error (.api .unauthorized))]) ∧
      (queued.act (.cancel 3)).1.store = queued.store := by
  intro before asks meanwhile g queued
  have hsent : .sent 1 (.logout (some "old")) ∈ ((history {} before).1.act asks).2 :=
    List.mem_cons_of_mem _ (List.mem_cons_of_mem _ List.mem_cons_self)
  obtain ⟨_, _, _, _, hmeanwhile⟩ := (logout_clears_once {}).1 before asks 1 (some "old") hsent
  obtain ⟨_, _, hends⟩ := hmeanwhile meanwhile (by decide +kernel)
  obtain ⟨_, hstate, hepoch, _⟩ := hends (.cancel 1) _ .dropped
  obtain ⟨_, _, _, _, hfails⟩ := hends (.reply 1 (.failed .unauthorized)) _ (.failed _)
  refine ⟨hsent, rfl, hstate, hepoch, hfails, ?_⟩
  obtain ⟨_, _, hkept⟩ := (logout_clears_once {}).2 before 3 [.run 3, asks]
    { id := 3, request := .logout, stage := .queued } rfl (by decide +kernel) rfl rfl
  exact hkept [.run 3, asks] (.cancel 3) [] rfl rfl

end AuthGateway

end DashboardClient
