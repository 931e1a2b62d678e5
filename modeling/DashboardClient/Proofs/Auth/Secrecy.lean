import DashboardClient.Auth.Script
import DashboardClient.Auth.World
import DashboardClient.Proofs.Auth.Redaction

/-!
# Secrecy

Two gateways run side by side on backends that agree up to tokens, and are told the same up to
secrets. Whatever the schedule, the worlds stay alike: they differ only in what redaction takes
out. So whoever sees log lines, backend calls, the session and how calls end learns no secret, and
of tokens only those that a call answers.
-/

namespace DashboardClient

-- ---------------------------------------------------------------------------
-- Backends that agree
-- ---------------------------------------------------------------------------

section
variable {σ σ' : Type} [Backend σ] [Backend σ']

/-- Related backends answer calls that differ only in secrets and tokens after the same delay, with
replies that differ only in tokens, and stay related. -/
structure IsAgreement (R : σ → σ' → Prop) : Prop where
  delay : ∀ {b b' call call'}, R b b' → call.redact = call'.redact →
    (Backend.serve b call).1.1 = (Backend.serve b' call').1.1
  reply : ∀ {b b' call call'}, R b b' → call.redact = call'.redact →
    (Backend.serve b call).1.2.redact = (Backend.serve b' call').1.2.redact
  next : ∀ {b b' call call'}, R b b' → call.redact = call'.redact →
    R (Backend.serve b call).2 (Backend.serve b' call').2

/-- From now on, the backends differ at most in tokens. -/
def BackendsAgree (b : σ) (b' : σ') : Prop :=
  ∃ R, IsAgreement R ∧ R b b'

end

/-- The entry without the token that it gives. -/
def BackendEntry.redact (e : BackendEntry) : BackendEntry :=
  { e with token := none }

namespace ScriptedBackend

/-- The same calls were made, and the scripts differ at most in tokens. -/
structure Agree (b b' : ScriptedBackend) : Prop where
  made : b.made = b'.made
  script : ∀ kind number, (b.script kind number).redact = (b'.script kind number).redact

theorem reply_redact {e e' : BackendEntry} {call call' : BackendCall}
    (he : e.redact = e'.redact) (hcall : call.redact = call'.redact) (number : Nat) :
    (e.reply call number).redact = (e'.reply call' number).redact := by
  obtain ⟨delay, error, identity, token⟩ := e
  obtain ⟨delay', error', identity', token'⟩ := e'
  simp only [BackendEntry.redact, BackendEntry.mk.injEq, and_true] at he
  obtain ⟨rfl, rfl, rfl⟩ := he
  cases error with
  | some error => rfl
  | none =>
    cases call <;> cases call' <;>
      simp only [BackendCall.redact, BackendCall.login.injEq, reduceCtorEq] at hcall
    · rfl
    · rfl
    · simp only [BackendEntry.reply, BackendReply.redact, hcall.1]
    · rfl

theorem isAgreement_agree : IsAgreement Agree where
  delay {b b' call call'} h hcall := by
    have hkind := congrArg BackendCall.kind hcall
    simp only [BackendCall.kind_redact] at hkind
    have hentry := congrArg BackendEntry.delay
      (h.script call'.kind (b'.made.count call'.kind + 1))
    simp only [Backend.serve, serve, h.made, hkind]
    exact hentry
  reply h hcall := by
    have hkind := congrArg BackendCall.kind hcall
    simp only [BackendCall.kind_redact] at hkind
    simp only [Backend.serve, serve, h.made, hkind]
    exact reply_redact (h.script _ _) hcall _
  next h hcall := by
    have hkind := congrArg BackendCall.kind hcall
    simp only [BackendCall.kind_redact] at hkind
    refine ⟨?_, h.script⟩
    simp only [Backend.serve, serve, h.made, hkind]

end ScriptedBackend


-- ---------------------------------------------------------------------------
-- Scripts
-- ---------------------------------------------------------------------------

/-- What may happen next to a gateway on a backend: a call or a waiting task starts or is dropped,
one step of one call, the arrival of one reply that is due, the end of all waiting tasks, time that
passes alone, and the schedule that leaves nothing undone. -/
inductive AuthCommand where
  | call (request : AuthRequest)
  | await
  | cancel (id : Nat)
  | run (id : Nat)
  | arrive (id : Nat)
  | release
  | pass (nanos : Nat)
  | idle
  | advance (nanos : Nat)
  deriving DecidableEq

def AuthCommand.redact : AuthCommand → AuthCommand
  | .call request => .call request.redact
  | command => command

/-- Only the starts of calls carry secrets. -/
theorem AuthCommand.cases_of_redact_eq {command command' : AuthCommand}
    (h : command.redact = command'.redact) :
    command = command' ∨ ∃ request request', command = .call request ∧
      command' = .call request' ∧ request.redact = request'.redact := by
  cases command with
  | call request =>
    cases command' with
    | call request' => exact .inr ⟨request, request', rfl, rfl, AuthCommand.call.inj h⟩
    | _ => cases h
  | _ => exact .inl (by cases command' <;> simp_all [redact])

namespace AuthWorld

variable {σ : Type} [Backend σ]

/-- A gateway that starts on a store and a backend. -/
def on (store : SessionStore) (backend : σ) : AuthWorld σ where
  gateway := { store }
  backend := backend

/-- The first reply on its way that satisfies the test arrives. -/
def deliver (w : AuthWorld σ) (test : PendingReply → Bool) : Option (AuthWorld σ) :=
  (w.pending.find? test).map fun p =>
    { w with pending := replaceFirst test none w.pending }.act (.reply p.id p.reply)

def obey (w : AuthWorld σ) : AuthCommand → AuthWorld σ
  | .call request => { w with started := w.started + 1 }.act (.start w.started request)
  | .await => { w with started := w.started + 1, waiters := w.waiters ++ [w.started] }
  | .cancel id =>
    { w with
      waiters := w.waiters.filter (· != id)
      pending := w.pending.filter (·.id != id) }.act (.cancel id)
  | .run id => w.act (.run id)
  | .arrive id => (w.deliver fun p => p.id == id && w.isDue p).getD w
  | .release => if w.session.isResolving then w else w.releaseWaiters
  | .pass nanos => { w with now := w.now + nanos }
  | .idle => w.runUntilIdle
  | .advance nanos => w.advance nanos

def obeyAll (w : AuthWorld σ) (script : List AuthCommand) : AuthWorld σ :=
  script.foldl obey w

/-- Replies that are due go first. -/
theorem step?_eq (w : AuthWorld σ) :
    w.step? = (w.deliver w.isDue).orElse fun _ =>
      if !w.waiters.isEmpty && !w.session.isResolving then some w.releaseWaiters
      else ((w.gateway.calls.map (·.id)).find? w.runsNow).map fun id => w.act (.run id) := by
  unfold step? deliver
  cases w.pending.find? w.isDue <;> rfl

/-- The operations of a world that callers use are short scripts. -/
theorem start_eq_obeyAll (w : AuthWorld σ) (request : AuthRequest) :
    w.start request = w.obeyAll [.call request, .idle] := rfl

theorem await_eq_obeyAll (w : AuthWorld σ) : w.await = w.obeyAll [.await, .idle] := rfl

theorem cancel_eq_obeyAll (w : AuthWorld σ) (id : Nat) :
    w.cancel id = w.obeyAll [.cancel id, .idle] := rfl

end AuthWorld


-- ---------------------------------------------------------------------------
-- What can be seen from outside
-- ---------------------------------------------------------------------------

/-- The line that an event writes to the log. -/
def AuthEvent.line? : AuthEvent → Option LogLine
  | .noted _ notice => some notice.line
  | _ => none

/-- The kind of the backend call that an event is about, and who made it. -/
def AuthEvent.asked? : AuthEvent → Option (Nat × BackendCallKind)
  | .sent id call => some (id, call.kind)
  | _ => none

/-- The call that ends with an event and its answer, none if it was dropped. -/
def AuthEvent.ended? : AuthEvent → Option (Nat × Option AuthAnswer)
  | .answered id answer => some (id, some answer)
  | .cancelled id => some (id, none)
  | _ => none

namespace AuthWorld

variable {σ σ' : Type}

/-- What the events of a history show, with the times, the latest first. -/
def seen {α : Type} (w : AuthWorld σ) (show? : AuthEvent → Option α) : List (Nat × α) :=
  w.history.filterMap fun e => (show? e.2).map fun a => (e.1, a)

/-- The two worlds cannot be told apart from outside without reading a token: log lines, kinds of
backend calls and ends of calls have come at the same times, with the same answers up to tokens, and
the session and the calls that go on are the same. -/
structure SeemsLike (w : AuthWorld σ) (w' : AuthWorld σ') : Prop where
  lines : w.seen AuthEvent.line? = w'.seen AuthEvent.line?
  asked : w.seen AuthEvent.asked? = w'.seen AuthEvent.asked?
  ended : (w.seen AuthEvent.ended?).map (fun e => (e.1, e.2.1, e.2.2.map (·.redact))) =
    (w'.seen AuthEvent.ended?).map (fun e => (e.1, e.2.1, e.2.2.map (·.redact)))
  phase : w.session.phase = w'.session.phase
  identity : w.session.identity? = w'.session.identity?
  epoch : w.gateway.store.epoch = w'.gateway.store.epoch
  live : ∀ id, w.isLive id = w'.isLive id

end AuthWorld


-- ---------------------------------------------------------------------------
-- Worlds that are alike
-- ---------------------------------------------------------------------------

def PendingReply.redact (p : PendingReply) : PendingReply :=
  { p with reply := p.reply.redact }

/-- An event with its time, redacted. -/
def redactTimed (e : Nat × AuthEvent) : Nat × AuthEvent :=
  (e.1, e.2.redact)

/-- The first backend call among redacted events is the redacted first backend call. -/
theorem findSome?_sent_redact (events : List AuthEvent) :
    (events.map (·.redact)).findSome? AuthEvent.sent? =
      (events.findSome? AuthEvent.sent?).map fun s => (s.1, s.2.redact) := by
  induction events with
  | nil => rfl
  | cons e rest ih =>
    cases e with
    | sent id call => rfl
    | _ => exact ih

theorem AuthAnswer.redact_redact (a : AuthAnswer) : a.redact.redact = a.redact := by
  cases a with
  | session s => cases s <;> rfl
  | _ => rfl

namespace AuthWorld

variable {σ σ' : Type}

section
variable [Backend σ] {w next : AuthWorld σ}

theorem runUntilIdle_of_none (h : w.step? = none) : w.runUntilIdle = w := by
  rw [runUntilIdle]
  split
  · rfl
  · simp_all

theorem runUntilIdle_of_some (h : w.step? = some next) :
    w.runUntilIdle = next.runUntilIdle := by
  rw [runUntilIdle]
  split <;> simp_all

end

theorem runsNow_eq_redact (w : AuthWorld σ) (id : Nat) :
    w.runsNow id = (w.gateway.redact.call? id).any w.gateway.redact.isReady := by
  rw [AuthGateway.call?_redact, Option.any_map]
  rfl

/-- The two worlds differ only in what redaction takes out, and their backends are related. -/
structure Alike (R : σ → σ' → Prop) (w : AuthWorld σ) (w' : AuthWorld σ') : Prop where
  now : w.now = w'.now
  gateway : w.gateway.redact = w'.gateway.redact
  backend : R w.backend w'.backend
  pending : w.pending.map (·.redact) = w'.pending.map (·.redact)
  waiters : w.waiters = w'.waiters
  started : w.started = w'.started
  history : w.history.map redactTimed = w'.history.map redactTimed

namespace Alike

variable {R : σ → σ' → Prop} {w : AuthWorld σ} {w' : AuthWorld σ'}

theorem store (h : Alike R w w') : w.gateway.store.redact = w'.gateway.store.redact :=
  congrArg AuthGateway.store h.gateway

theorem session (h : Alike R w w') : w.session.redact = w'.session.redact :=
  congrArg SessionStore.state h.store

theorem isResolving (h : Alike R w w') : w.session.isResolving = w'.session.isResolving := by
  rw [← SessionState.isResolving_redact, h.session, SessionState.isResolving_redact]

theorem isDue (h : Alike R w w') : w.isDue = w'.isDue := by
  funext p
  simp only [AuthWorld.isDue, h.now]

theorem releaseWaiters (h : Alike R w w') : Alike R w.releaseWaiters w'.releaseWaiters := by
  refine { h with waiters := rfl, history := ?_ }
  simp [AuthWorld.releaseWaiters, redactTimed, AuthEvent.redact, AuthAnswer.redact,
    h.now, h.waiters, h.session, h.history, Function.comp_def]

theorem ids (h : Alike R w w') :
    w.gateway.calls.map (·.id) = w'.gateway.calls.map (·.id) := by
  have hcalls := congrArg (fun g : AuthGateway => g.calls.map (·.id)) h.gateway
  simpa [AuthGateway.redact, AuthCall.redact, Function.comp_def] using hcalls

theorem runsNow (h : Alike R w w') : w.runsNow = w'.runsNow := by
  funext id
  rw [runsNow_eq_redact, runsNow_eq_redact, h.gateway]

theorem nextWake? (h : Alike R w w') : w.nextWake? = w'.nextWake? := by
  have hdues := congrArg (List.map PendingReply.due) h.pending
  simp only [List.map_map, Function.comp_def, PendingReply.redact] at hdues
  simp only [AuthWorld.nextWake?, hdues, h.now]

theorem setNow (h : Alike R w w') (t : Nat) :
    Alike R { w with now := t } { w' with now := t } :=
  { h with now := rfl }

section
variable [Backend σ] [Backend σ']

theorem serve (h : Alike R w w') (agree : IsAgreement R) (id : Nat) {call call' : BackendCall}
    (hcall : call.redact = call'.redact) : Alike R (w.serve id call) (w'.serve id call') := by
  have hdelay := agree.delay h.backend hcall
  have hreply := agree.reply h.backend hcall
  have hnext := agree.next h.backend hcall
  have hentry : ∀ due, (PendingReply.mk id due (Backend.serve w.backend call).1.2).redact =
      (PendingReply.mk id due (Backend.serve w'.backend call').1.2).redact := by
    intro due
    simp only [PendingReply.redact, hreply]
  unfold AuthWorld.serve
  simp only [← hdelay]
  cases (Backend.serve w.backend call).1.1 with
  | immediate =>
    refine { h with backend := hnext, pending := ?_ }
    simp only [List.map_cons, h.now, hentry, h.pending]
  | after nanos =>
    refine { h with backend := hnext, pending := ?_ }
    simp only [List.map_append, List.map_cons, List.map_nil, h.now, hentry, h.pending]
  | never => exact { h with backend := hnext }

/-- Whatever the gateways are told, up to secrets and tokens they do the same. -/
theorem act (h : Alike R w w') (agree : IsAgreement R) {a a' : AuthAction}
    (ha : a.redact = a'.redact) : Alike R (w.act a) (w'.act a') := by
  have hstep : AuthGateway.redactStep (w.gateway.act a) =
      AuthGateway.redactStep (w'.gateway.act a') := by
    rw [AuthGateway.redact_act, AuthGateway.redact_act, h.gateway, ha]
  have hgateway := congrArg Prod.fst hstep
  have hevents := congrArg Prod.snd hstep
  simp only [AuthGateway.redactStep] at hgateway hevents
  have hhistory : ∀ events : List AuthEvent,
      (events.map fun e => (w.now, e)).map redactTimed =
        (events.map (·.redact)).map fun e => (w.now, e) := by
    intro events
    simp [redactTimed, Function.comp_def]
  have hsent : ((w.gateway.act a).2.findSome? AuthEvent.sent?).map
        (fun s => (s.1, s.2.redact)) =
      ((w'.gateway.act a').2.findSome? AuthEvent.sent?).map fun s => (s.1, s.2.redact) := by
    rw [← findSome?_sent_redact, ← findSome?_sent_redact, hevents]
  have hafter : Alike R
      { w with
        gateway := (w.gateway.act a).1
        history := ((w.gateway.act a).2.map fun e => (w.now, e)).reverse ++ w.history }
      { w' with
        gateway := (w'.gateway.act a').1
        history := ((w'.gateway.act a').2.map fun e => (w'.now, e)).reverse ++ w'.history } := by
    refine { h with gateway := hgateway, history := ?_ }
    simp only [List.map_append, List.map_reverse, ← h.now, hhistory, hevents, h.history]
  unfold AuthWorld.act
  cases hs : (w.gateway.act a).2.findSome? AuthEvent.sent? with
  | none =>
    cases hs' : (w'.gateway.act a').2.findSome? AuthEvent.sent? with
    | none => simpa only [hs, hs'] using hafter
    | some s' => simp [hs, hs'] at hsent
  | some s =>
    cases hs' : (w'.gateway.act a').2.findSome? AuthEvent.sent? with
    | none => simp [hs, hs'] at hsent
    | some s' =>
      simp only [hs, hs', Option.map_some, Option.some.injEq, Prod.mk.injEq] at hsent
      simpa only [hs, hs', hsent.1] using hafter.serve agree s'.1 hsent.2

theorem deliver (h : Alike R w w') (agree : IsAgreement R) {test test' : PendingReply → Bool}
    (blind : ∀ p, test p.redact = test p) (htest : test = test') :
    Option.Rel (Alike R) (w.deliver test) (w'.deliver test') := by
  subst htest
  have hfind : ∀ ps : List PendingReply,
      (ps.map (·.redact)).find? test = (ps.find? test).map (·.redact) := by
    intro ps
    rw [List.find?_map]
    exact congrArg (fun t => (ps.find? t).map (·.redact)) (funext blind)
  have hfound : (w.pending.find? test).map (·.redact) = (w'.pending.find? test).map (·.redact) := by
    rw [← hfind, ← hfind, h.pending]
  have hrest : Alike R { w with pending := replaceFirst test none w.pending }
      { w' with pending := replaceFirst test none w'.pending } := by
    refine { h with pending := ?_ }
    simp only [map_replaceFirst blind, h.pending]
  unfold AuthWorld.deliver
  cases hp : w.pending.find? test with
  | none =>
    cases hp' : w'.pending.find? test with
    | none => exact .none
    | some p' => simp [hp, hp'] at hfound
  | some p =>
    cases hp' : w'.pending.find? test with
    | none => simp [hp, hp'] at hfound
    | some p' =>
      simp only [hp, hp', Option.map_some, Option.some.injEq] at hfound
      have hid : p.redact.id = p'.redact.id := congrArg PendingReply.id hfound
      have hreply : p.redact.reply = p'.redact.reply := congrArg PendingReply.reply hfound
      exact .some (hrest.act agree (congrArg₂ AuthAction.reply hid hreply))

theorem step? (h : Alike R w w') (agree : IsAgreement R) :
    Option.Rel (Alike R) w.step? w'.step? := by
  have harrival := h.deliver agree (fun p => rfl : ∀ p, w.isDue p.redact = w.isDue p) h.isDue
  rw [step?_eq, step?_eq]
  generalize w.deliver w.isDue = arrived, w'.deliver w'.isDue = arrived' at harrival
  cases harrival with
  | some hnext => exact .some hnext
  | none =>
    simp only [Option.orElse, h.waiters, h.isResolving, h.ids, h.runsNow]
    split
    · exact .some h.releaseWaiters
    · cases (w'.gateway.calls.map (·.id)).find? w'.runsNow with
      | none => exact .none
      | some id => exact .some (h.act agree rfl)

theorem runUntilIdle (h : Alike R w w') (agree : IsAgreement R) :
    Alike R w.runUntilIdle w'.runUntilIdle := by
  induction w using AuthWorld.runUntilIdle.induct generalizing w' with
  | case1 w hidle =>
    have hstep := h.step? agree
    rw [hidle] at hstep
    cases hidle' : w'.step? with
    | none => rwa [runUntilIdle_of_none hidle, runUntilIdle_of_none hidle']
    | some next' => rw [hidle'] at hstep; cases hstep
  | case2 w next hnext ih =>
    have hstep := h.step? agree
    rw [hnext] at hstep
    cases hnext' : w'.step? with
    | none => rw [hnext'] at hstep; cases hstep
    | some next' =>
      rw [hnext'] at hstep
      obtain ⟨hnexts⟩ := hstep
      rw [runUntilIdle_of_some hnext, runUntilIdle_of_some hnext']
      exact ih hnexts

theorem start (h : Alike R w w') (agree : IsAgreement R) {request request' : AuthRequest}
    (hrequest : request.redact = request'.redact) :
    Alike R (w.obey (.call request)) (w'.obey (.call request')) := by
  have hnumbered : Alike R { w with started := w.started + 1 }
      { w' with started := w'.started + 1 } :=
    { h with started := congrArg (· + 1) h.started }
  have haction : (AuthAction.start w.started request).redact =
      (AuthAction.start w'.started request').redact := congrArg₂ AuthAction.start h.started hrequest
  exact hnumbered.act agree haction

theorem cancel (h : Alike R w w') (agree : IsAgreement R) (id : Nat) :
    Alike R (w.obey (.cancel id)) (w'.obey (.cancel id)) := by
  have hfilter : ∀ ps : List PendingReply, (ps.filter (·.id != id)).map (·.redact) =
      (ps.map (·.redact)).filter (·.id != id) := by
    intro ps
    rw [List.filter_map]
    rfl
  have hdropped : Alike R
      { w with
        waiters := w.waiters.filter (· != id)
        pending := w.pending.filter (·.id != id) }
      { w' with
        waiters := w'.waiters.filter (· != id)
        pending := w'.pending.filter (·.id != id) } := by
    refine { h with waiters := congrArg (List.filter (· != id)) h.waiters, pending := ?_ }
    rw [hfilter, hfilter, h.pending]
  exact hdropped.act agree (a := .cancel id) rfl

theorem arrive (h : Alike R w w') (agree : IsAgreement R) (id : Nat) :
    Alike R (w.obey (.arrive id)) (w'.obey (.arrive id)) := by
  have htest : (fun p : PendingReply => p.id == id && w.isDue p) =
      fun p => p.id == id && w'.isDue p := by
    rw [h.isDue]
  have harrival := h.deliver agree (fun _ => rfl) htest
  simp only [AuthWorld.obey]
  generalize (w.deliver fun p => p.id == id && w.isDue p) = arrived,
    (w'.deliver fun p => p.id == id && w'.isDue p) = arrived' at harrival ⊢
  cases harrival with
  | some hnext => exact hnext
  | none => exact h

theorem advanceTo {w : AuthWorld σ} {w' : AuthWorld σ'} (h : Alike R w w')
    (agree : IsAgreement R) (target : Nat) :
    Alike R (w.advanceTo target) (w'.advanceTo target) := by
  have hidle := h.runUntilIdle agree
  rw [AuthWorld.advanceTo, AuthWorld.advanceTo]
  simp only [← hidle.nextWake?, ← h.now]
  split
  · exact hidle.setNow target
  · next t wake =>
    split
    · next inside => exact (hidle.setNow t).advanceTo agree target
    · exact hidle.setNow target
  termination_by target - w.now
  decreasing_by omega

theorem obey (h : Alike R w w') (agree : IsAgreement R) {command command' : AuthCommand}
    (hcommand : command.redact = command'.redact) : Alike R (w.obey command) (w'.obey command') := by
  obtain rfl | ⟨request, request', rfl, rfl, hrequest⟩ := AuthCommand.cases_of_redact_eq hcommand
  · cases command with
    | call request => exact h.start agree rfl
    | await =>
      exact { h with
        waiters := congrArg₂ (fun ws id => ws ++ [id]) h.waiters h.started
        started := congrArg (· + 1) h.started }
    | cancel id => exact h.cancel agree id
    | run id => exact h.act agree (a := .run id) rfl
    | arrive id => exact h.arrive agree id
    | release =>
      simp only [AuthWorld.obey, h.isResolving]
      split
      · exact h
      · exact h.releaseWaiters
    | pass nanos => exact { h with now := congrArg (· + nanos) h.now }
    | idle => exact h.runUntilIdle agree
    | advance nanos =>
      simp only [AuthWorld.obey, advance, h.now]
      exact h.advanceTo agree _
  · exact h.start agree hrequest

theorem obeyAll (h : Alike R w w') (agree : IsAgreement R) {script script' : List AuthCommand}
    (hscript : script.map (·.redact) = script'.map (·.redact)) :
    Alike R (w.obeyAll script) (w'.obeyAll script') := by
  induction script generalizing w w' script' with
  | nil =>
    cases script' with
    | nil => exact h
    | cons command' rest' => cases hscript
  | cons command rest ih =>
    cases script' with
    | nil => cases hscript
    | cons command' rest' =>
      obtain ⟨hcommand, hrest⟩ := List.cons.inj hscript
      exact ih (h.obey agree hcommand) hrest

end

/-- What events show up to `f` can be read off the redacted history. -/
theorem seen (h : Alike R w w') {α β : Type} {show? : AuthEvent → Option α} {f : α → β}
    (blind : ∀ e, (show? e.redact).map f = (show? e).map f) :
    (w.seen show?).map (fun e => (e.1, f e.2)) = (w'.seen show?).map fun e => (e.1, f e.2) := by
  have hread : ∀ events : List (Nat × AuthEvent),
      (events.filterMap fun e => (show? e.2).map fun a => (e.1, a)).map (fun e => (e.1, f e.2)) =
        (events.map redactTimed).filterMap fun e => ((show? e.2).map f).map fun b => (e.1, b) := by
    intro events
    rw [List.map_filterMap, List.filterMap_map]
    refine congrArg (events.filterMap ·) (funext fun e => ?_)
    have hshown := congrArg (Option.map fun b => (e.1, b)) (blind e.2)
    simp only [Option.map_map] at hshown
    simp only [Function.comp_apply, redactTimed, Option.map_map]
    exact hshown.symm
  simp only [AuthWorld.seen, hread, h.history]

theorem seemsLike (h : Alike R w w') : w.SeemsLike w' where
  lines := by simpa using h.seen (f := id) (fun e => by cases e <;> rfl)
  asked := by
    simpa using h.seen (f := id)
      (fun e => by cases e <;> simp [AuthEvent.asked?, AuthEvent.redact])
  ended := h.seen (f := fun a : Nat × Option AuthAnswer => (a.1, a.2.map (·.redact)))
    (fun e => by cases e <;> simp [AuthEvent.ended?, AuthEvent.redact, AuthAnswer.redact_redact])
  phase := by rw [← SessionState.phase_redact, h.session, SessionState.phase_redact]
  identity := by rw [← SessionState.identity?_redact, h.session, SessionState.identity?_redact]
  epoch := by
    show w.gateway.redact.store.epoch = w'.gateway.redact.store.epoch
    rw [h.gateway]
  live id := by
    have hcall : ∀ g : AuthGateway, (g.redact.call? id).isSome = (g.call? id).isSome := by
      intro g
      rw [AuthGateway.call?_redact, Option.isSome_map]
    rw [isLive, isLive, ← hcall w.gateway, ← hcall w'.gateway, h.gateway, h.waiters]

end Alike

/-- Log lines, backend calls, the session and the ends of calls depend on no secret and no token. -/
theorem secrets_and_tokens_stay_hidden [Backend σ] [Backend σ'] {b : σ} {b' : σ'}
    (hbackend : BackendsAgree b b') {store store' : SessionStore}
    (hstore : store.redact = store'.redact) {script script' : List AuthCommand}
    (hscript : script.map (·.redact) = script'.map (·.redact)) (n : Nat) :
    ((on store b).obeyAll (script.take n)).SeemsLike
      ((on store' b').obeyAll (script'.take n)) := by
  obtain ⟨R, agree, hb⟩ := hbackend
  have hstart : Alike R (on store b) (on store' b') :=
    { now := rfl
      gateway := congrArg (fun store => ({ store } : AuthGateway)) hstore
      backend := hb
      pending := rfl
      waiters := rfl
      started := rfl
      history := rfl }
  have htake : (script.take n).map (·.redact) = (script'.take n).map (·.redact) := by
    rw [List.map_take, List.map_take, hscript]
  exact (hstart.obeyAll agree htake).seemsLike

/-- Two users log in with their own secrets and refresh their tokens. They hold different tokens in
the end, and the logs are the same. -/
theorem two_logins_seem_alike :
    let backend : String → ScriptedBackend := fun token =>
      { script := fun _ _ => { delay := .after 5, identity := some "ann", token := some token } }
    let visit : String → List AuthCommand := fun secret =>
      [.call (.login "ann" secret), .run 0, .pass 5, .arrive 0, .pass 5, .arrive 0, .pass 5,
        .arrive 0, .call .refreshToken, .run 1, .pass 5, .arrive 1]
    let w := (on {} (backend "left")).obeyAll ((visit "hunter2").take 12)
    let w' := (on {} (backend "right")).obeyAll ((visit "sesame").take 12)
    w.seen AuthEvent.line? =
        [(15, ⟨.info, "login succeeded", [("identity", .shown "ann")]⟩),
          (10, ⟨.info, "session probe: authenticated", [("identity", .shown "ann")]⟩)] ∧
      w.session = .authenticated "ann" "left" ∧ w'.session = .authenticated "ann" "right" ∧
      w.SeemsLike w' := by
  intro backend visit w w'
  have hbackend : BackendsAgree (backend "left") (backend "right") :=
    ⟨_, ScriptedBackend.isAgreement_agree, rfl, fun _ _ => rfl⟩
  have hscript : (visit "hunter2").map (·.redact) = (visit "sesame").map (·.redact) := by
    decide
  exact ⟨by decide +kernel, by decide +kernel, by decide +kernel,
    secrets_and_tokens_stay_hidden hbackend rfl hscript 12⟩

end AuthWorld

end DashboardClient
