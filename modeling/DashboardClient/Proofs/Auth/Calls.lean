import DashboardClient.Proofs.Auth.Steps
import Mathlib.Data.List.Induction

/-!
# Calls and changes over a run

A step belongs to one call: whatever it reports happens to that call, and every other call
stays where it is. The store after any run is its first value with the reported changes
written into it one after the other, so the epoch counts the boundaries among them.
-/

namespace DashboardClient

-- ---------------------------------------------------------------------------
-- Changes of the store
-- ---------------------------------------------------------------------------

namespace SessionStore

/-- The store after the changes of a list. -/
def replay (store : SessionStore) (changes : List SessionChange) : SessionStore :=
  changes.foldl (fun s change => change.commit s) store

@[simp] theorem replay_nil (store : SessionStore) : store.replay [] = store := rfl

@[simp] theorem replay_cons (store : SessionStore) (change : SessionChange)
    (changes : List SessionChange) :
    store.replay (change :: changes) = (change.commit store).replay changes := rfl

theorem replay_append (store : SessionStore) (first rest : List SessionChange) :
    store.replay (first ++ rest) = (store.replay first).replay rest := by
  simp [replay]

theorem replay_state (store : SessionStore) (changes : List SessionChange) :
    (store.replay changes).state = changes.foldl SessionChange.apply store.state := by
  induction changes generalizing store with
  | nil => rfl
  | cons change changes ih => rw [replay_cons, ih, SessionChange.commit_state]; rfl

/-- The epoch counts the boundaries. -/
theorem replay_epoch (store : SessionStore) (changes : List SessionChange) :
    (store.replay changes).epoch = store.epoch + changes.countP (·.isBoundary) := by
  induction changes generalizing store with
  | nil => rfl
  | cons change changes ih =>
    rw [replay_cons, ih, SessionChange.commit_epoch, List.countP_cons]
    omega

theorem epoch_le_replay (store : SessionStore) (changes : List SessionChange) :
    store.epoch ≤ (store.replay changes).epoch := by
  rw [replay_epoch]
  exact Nat.le_add_right _ _

theorem replay_epoch_eq_iff (store : SessionStore) (changes : List SessionChange) :
    (store.replay changes).epoch = store.epoch ↔ ∀ change ∈ changes, ¬change.isBoundary := by
  rw [replay_epoch, Nat.add_eq_left, List.countP_eq_zero]

/-- While no session begins or ends, an authenticated session keeps its identity. -/
theorem replay_of_not_boundary {store : SessionStore} {changes : List SessionChange}
    {identity token : String} (inside : ∀ change ∈ changes, ¬change.isBoundary)
    (authenticated : store.state = .authenticated identity token) :
    ∃ token', (store.replay changes).state = .authenticated identity token' := by
  induction changes generalizing store token with
  | nil => exact ⟨token, authenticated⟩
  | cons change changes ih =>
    simp only [List.mem_cons, forall_eq_or_imp] at inside
    cases change with
    | tokenReplaced token' =>
      refine @ih _ token' inside.2 ?_
      rw [SessionChange.commit_state, authenticated]
      rfl
    | _ => exact absurd rfl inside.1

end SessionStore


-- ---------------------------------------------------------------------------
-- Whose a step is
-- ---------------------------------------------------------------------------

/-- The call that takes the step. -/
def AuthAction.caller : AuthAction → Nat
  | .start id _ => id
  | .run id => id
  | .reply id _ => id
  | .cancel id => id

namespace AuthEvent

/-- The call that the event happens to. -/
def caller : AuthEvent → Nat
  | .sent id _ => id
  | .changed id _ => id
  | .noted id _ => id
  | .answered id _ => id
  | .cancelled id => id

/-- The call of the event is over with it. -/
def isEnd : AuthEvent → Bool
  | .answered _ _ => true
  | .cancelled _ => true
  | _ => false

/-- The change of the session that the event reports. -/
def change? : AuthEvent → Option SessionChange
  | .changed _ change => some change
  | _ => none

end AuthEvent

/-- The changes of the session among the events, in their order. -/
def changesIn (events : List AuthEvent) : List SessionChange :=
  events.filterMap (·.change?)

@[simp] theorem changesIn_nil : changesIn [] = [] := rfl

@[simp] theorem changesIn_append (first rest : List AuthEvent) :
    changesIn (first ++ rest) = changesIn first ++ changesIn rest :=
  List.filterMap_append

@[simp] theorem changesIn_cons (e : AuthEvent) (es : List AuthEvent) :
    changesIn (e :: es) = e.change?.toList ++ changesIn es := by
  cases e <;> rfl

theorem mem_changesIn {events : List AuthEvent} {change : SessionChange} :
    change ∈ changesIn events ↔ ∃ id, .changed id change ∈ events := by
  simp only [changesIn, List.mem_filterMap]
  constructor
  · rintro ⟨e, he, hc⟩
    cases e with
    | changed id change' =>
      cases hc
      exact ⟨id, he⟩
    | _ => cases hc
  · rintro ⟨id, he⟩
    exact ⟨_, he, rfl⟩

section Finishes

variable {store : SessionStore} {id : Nat} {stage : AuthStage} {reply : BackendReply}
  {change : Option SessionChange} {answer : AuthAnswer} {es : List AuthEvent}

/-- The replies that end a call's own business report its changes before it answers. -/
theorem Finishes.changesIn_eq (h : Finishes store id stage reply change answer es) :
    changesIn es = change.toList := by
  cases h <;> rfl

theorem Finishes.caller_eq (h : Finishes store id stage reply change answer es) :
    ∀ e ∈ es, e.caller = id := by
  cases h <;> simp [AuthEvent.caller]

theorem Finishes.not_mem_sent (h : Finishes store id stage reply change answer es) (id' : Nat)
    (call : BackendCall) : .sent id' call ∉ es := by
  cases h <;> simp

end Finishes

@[simp] theorem changesIn_lastChange (id : Nat) (change : Option SessionChange) :
    changesIn (change.map (AuthEvent.changed id)).toList = change.toList := by
  cases change <;> rfl

@[simp] theorem SessionStore.replay_toList (store : SessionStore)
    (change : Option SessionChange) : store.replay change.toList = store.after change := by
  cases change <;> rfl

/-- The call `id` does not end in the events. -/
def Lasts (id : Nat) (events : List AuthEvent) : Prop :=
  ∀ e ∈ events, e.isEnd = true → e.caller ≠ id

instance (id : Nat) (events : List AuthEvent) : Decidable (Lasts id events) :=
  inferInstanceAs (Decidable (∀ e ∈ events, e.isEnd = true → e.caller ≠ id))

theorem lasts_append {id : Nat} {first rest : List AuthEvent} :
    Lasts id (first ++ rest) ↔ Lasts id first ∧ Lasts id rest := by
  simp only [Lasts, List.mem_append, or_imp, forall_and]

theorem not_lasts {id : Nat} {events : List AuthEvent} {e : AuthEvent} (mem : e ∈ events)
    (ends : e.isEnd = true) (caller : e.caller = id) : ¬Lasts id events :=
  fun h => h e mem ends caller

theorem not_lasts_snoc {id : Nat} {events : List AuthEvent} {e : AuthEvent}
    (ends : e.isEnd = true) (caller : e.caller = id) : ¬Lasts id (events ++ [e]) :=
  not_lasts (List.mem_append_right _ List.mem_cons_self) ends caller

namespace AuthGateway

-- ---------------------------------------------------------------------------
-- Looking calls up
-- ---------------------------------------------------------------------------

section Lookup

variable {g : AuthGateway} {c : AuthCall}

theorem call?_moveTo_self (live : g.call? c.id = some c) (stage : AuthStage) :
    (g.moveTo c stage).call? c.id = some { c with stage } :=
  find?_replaceFirst_some rfl live

/-- A call that begins to run the probe. -/
theorem call?_probe_self (live : g.call? c.id = some c) :
    ({ g with probe := .running c.id }.moveTo c .probingIdentity).call? c.id =
      some { c with stage := .probingIdentity } :=
  call?_moveTo_self (g := { g with probe := .running c.id }) live .probingIdentity

theorem call?_moveTo_of_ne {id : Nat} (other : id ≠ c.id) (stage : AuthStage) :
    (g.moveTo c stage).call? id = g.call? id :=
  find?_replaceFirst_ne (by simp) other

theorem call?_remove_self (distinct : (g.calls.map (·.id)).Nodup) :
    (g.remove c).call? c.id = none :=
  find?_replaceFirst_none distinct

theorem call?_remove_of_ne {id : Nat} (other : id ≠ c.id) :
    (g.remove c).call? id = g.call? id :=
  find?_replaceFirst_ne (by simp) other

theorem call?_arrive {id : Nat} {request : AuthRequest} (fresh : g.call? id = none) (id' : Nat) :
    ({ g with calls := g.calls ++ [{ id, request }] } : AuthGateway).call? id' =
      if id' = id then some { id, request } else g.call? id' := by
  have happend : ({ g with calls := g.calls ++ [{ id, request }] } : AuthGateway).call? id' =
      (g.call? id').or ([({ id, request } : AuthCall)].find? (·.id == id')) :=
    List.find?_append
  rw [happend]
  by_cases hid : id' = id
  · subst hid
    simp [fresh]
  · simp [hid, Ne.symm hid]

theorem call?_arrive_self {id : Nat} (fresh : g.call? id = none) (request : AuthRequest) :
    ({ g with calls := g.calls ++ [{ id, request }] } : AuthGateway).call? id =
      some { id, request } :=
  (call?_arrive fresh id).trans (if_pos rfl)

@[simp] theorem handOver_call? (g : AuthGateway) (id : Nat) :
    g.handOver.call? id = g.call? id := by
  unfold handOver
  split <;> rfl

@[simp] theorem handOver_calls (g : AuthGateway) : g.handOver.calls = g.calls := by
  unfold handOver
  split <;> rfl

@[simp] theorem handOver_store (g : AuthGateway) : g.handOver.store = g.store := by
  unfold handOver
  split <;> rfl

theorem handOver_of_nil (empty : g.queue = []) :
    g.handOver.probe = .unstarted ∧ g.handOver.queue = [] := by
  simp [handOver, empty]

theorem handOver_of_cons {next : Nat} {rest : List Nat} (queue : g.queue = next :: rest) :
    g.handOver.probe = .running next ∧ g.handOver.queue = rest := by
  simp [handOver, queue]

theorem mem_calls_iff (distinct : (g.calls.map (·.id)).Nodup) :
    c ∈ g.calls ↔ g.call? c.id = some c :=
  (find?_eq_some_iff_mem distinct).symm

end Lookup


-- ---------------------------------------------------------------------------
-- What one step leaves alone
-- ---------------------------------------------------------------------------

variable {g g' : AuthGateway} {a : AuthAction} {c : AuthCall} {es : List AuthEvent}
  {outcome : Except AuthError SessionPhase}

theorem Proceeds.caller_eq (h : g.Proceeds c outcome g' es) : ∀ e ∈ es, e.caller = c.id := by
  cases h with
  | decline => simp [AuthEvent.caller]
  | send => simp [AuthEvent.caller]

theorem Proceeds.call?_of_ne (h : g.Proceeds c outcome g' es) {id : Nat} (other : id ≠ c.id) :
    g'.call? id = g.call? id := by
  cases h with
  | decline => exact call?_remove_of_ne other
  | send => exact call?_moveTo_of_ne other _

theorem Proceeds.store_eq (h : g.Proceeds c outcome g' es) : g'.store = g.store := by
  cases h <;> rfl

theorem Proceeds.probe_eq (h : g.Proceeds c outcome g' es) : g'.probe = g.probe := by
  cases h <;> rfl

theorem Proceeds.queue_eq (h : g.Proceeds c outcome g' es) : g'.queue = g.queue := by
  cases h <;> rfl

theorem Proceeds.changesIn_eq (h : g.Proceeds c outcome g' es) : changesIn es = [] := by
  cases h <;> rfl

theorem Proceeds.live_of_lasts (h : g.Proceeds c outcome g' es) (live : g.call? c.id = some c)
    (lasts : Lasts c.id es) : ∃ c', g'.call? c.id = some c' ∧ c'.request = c.request := by
  cases h with
  | decline => exact absurd lasts (not_lasts List.mem_cons_self rfl rfl)
  | send => exact ⟨_, call?_moveTo_self live _, rfl⟩

/-- Whatever a step reports happens to the call that takes it. -/
theorem Step.caller_eq (h : g.Step a g' es) : ∀ e ∈ es, e.caller = a.caller := by
  cases h with
  | proceed live stage ended proceeds => exact proceeds.caller_eq
  | settle live ends proceeds =>
    simp only [List.mem_cons, forall_eq_or_imp]
    exact ⟨rfl, rfl, proceeds.caller_eq⟩
  | finish live finishes =>
    simp only [List.mem_append, List.mem_singleton]
    rintro e (he | rfl)
    · exact finishes.caller_eq e he
    · rfl
  | abandon =>
    simp only [List.mem_append, List.mem_singleton, Option.mem_toList, Option.map_eq_some_iff]
    rintro e (⟨change, _, rfl⟩ | rfl) <;> rfl
  | withdraw =>
    simp only [List.mem_append, List.mem_singleton, Option.mem_toList, Option.map_eq_some_iff]
    rintro e (⟨change, _, rfl⟩ | rfl) <;> rfl
  | _ => simp [AuthEvent.caller, AuthAction.caller]

/-- Nothing happens to the others. -/
theorem Step.caller_ne (h : g.Step a g' es) {id : Nat} (other : id ≠ a.caller) :
    ∀ e ∈ es, e.caller ≠ id := by
  intro e he hcaller
  exact other (hcaller.symm.trans (h.caller_eq e he))

/-- A step leaves every other call where it is. -/
theorem Step.call?_of_ne (h : g.Step a g' es) {id : Nat} (other : id ≠ a.caller) :
    g'.call? id = g.call? id := by
  cases h with
  | stay => rfl
  | arrive fresh => exact (call?_arrive fresh id).trans (if_neg other)
  | probe => exact call?_moveTo_of_ne (g := { g with probe := _ }) other _
  | enqueue => exact call?_moveTo_of_ne other _
  | proceed live stage ended proceeds => exact proceeds.call?_of_ne other
  | identify => exact call?_moveTo_of_ne other _
  | settle live ends proceeds => exact proceeds.call?_of_ne other
  | finish => exact call?_remove_of_ne other
  | abandon => exact (handOver_call? _ id).trans (call?_remove_of_ne other)
  | withdraw => exact call?_remove_of_ne other

/-- Exactly what a step reports is written into the store. -/
theorem Step.store_eq (h : g.Step a g' es) : g'.store = g.store.replay (changesIn es) := by
  cases h with
  | proceed live stage ended proceeds => rw [proceeds.store_eq, proceeds.changesIn_eq]; rfl
  | settle live ends proceeds =>
    rw [proceeds.store_eq]
    simp [AuthEvent.change?, proceeds.changesIn_eq, settled]
  | finish live finishes =>
    simp [finishes.changesIn_eq, AuthEvent.change?, finished]
  | abandon => simp [finished, changesIn_lastChange, AuthEvent.change?]
  | withdraw => simp [finished, changesIn_lastChange, AuthEvent.change?]
  | _ => rfl

/-- A call that does not end goes on with the same request. -/
theorem Step.live_of_lasts (h : g.Step a g' es) {id : Nat} (live : g.call? id = some c)
    (lasts : Lasts id es) : ∃ c', g'.call? id = some c' ∧ c'.request = c.request := by
  by_cases hid : id = a.caller
  · subst hid
    cases h with
    | stay => exact ⟨c, live, rfl⟩
    | arrive fresh => cases fresh.symm.trans live
    | probe hlive =>
      obtain rfl := Option.some.inj (hlive.symm.trans live)
      exact ⟨_, call?_probe_self live, rfl⟩
    | enqueue hlive =>
      obtain rfl := Option.some.inj (hlive.symm.trans live)
      exact ⟨_, call?_moveTo_self live _, rfl⟩
    | identify hlive =>
      obtain rfl := Option.some.inj (hlive.symm.trans live)
      exact ⟨_, call?_moveTo_self live _, rfl⟩
    | proceed hlive stage ended proceeds =>
      obtain rfl := Option.some.inj (hlive.symm.trans live)
      exact proceeds.live_of_lasts live lasts
    | settle hlive ends proceeds =>
      obtain rfl := Option.some.inj (hlive.symm.trans live)
      refine proceeds.live_of_lasts live ?_
      intro e he
      exact lasts e (by simp [he])
    | finish => exact absurd lasts (not_lasts_snoc rfl rfl)
    | abandon => exact absurd lasts (not_lasts_snoc rfl rfl)
    | withdraw => exact absurd lasts (not_lasts_snoc rfl rfl)
  · exact ⟨c, (h.call?_of_ne hid).trans live, rfl⟩

/-- A call that has asked the backend for its own business does nothing until it ends. -/
theorem Step.pending_of_lasts (h : g.Step a g' es) {id : Nat} (live : g.call? id = some c)
    (own : c.stage.isOwn = true) (lasts : Lasts id es) :
    g'.call? id = some c ∧ ∀ e ∈ es, e.caller ≠ id := by
  by_cases hid : id = a.caller
  · subst hid
    cases h with
    | stay => exact ⟨live, List.forall_mem_nil _⟩
    | arrive fresh => cases fresh.symm.trans live
    | probe hlive free =>
      obtain rfl := Option.some.inj (hlive.symm.trans live)
      rcases free with ⟨hs, _⟩ | ⟨hs, _⟩ <;> simp [hs, AuthStage.isOwn] at own
    | enqueue hlive ready =>
      obtain rfl := Option.some.inj (hlive.symm.trans live)
      simp [ready, AuthStage.isOwn] at own
    | proceed hlive stage =>
      obtain rfl := Option.some.inj (hlive.symm.trans live)
      rcases stage with hs | hs <;> simp [hs, AuthStage.isOwn] at own
    | identify hlive stage =>
      obtain rfl := Option.some.inj (hlive.symm.trans live)
      simp [stage, AuthStage.isOwn] at own
    | settle hlive ends =>
      obtain rfl := Option.some.inj (hlive.symm.trans live)
      generalize AuthCall.stage _ = stage at ends own
      cases ends <;> cases own
    | finish => exact absurd lasts (not_lasts_snoc rfl rfl)
    | abandon => exact absurd lasts (not_lasts_snoc rfl rfl)
    | withdraw => exact absurd lasts (not_lasts_snoc rfl rfl)
  · exact ⟨(h.call?_of_ne hid).trans live, h.caller_ne hid⟩

/-- Such a call goes on waiting until it hears from the backend or is dropped. -/
theorem Step.lasts_or_hears (h : g.Step a g' es) {id : Nat} (live : g.call? id = some c)
    (own : c.stage.isOwn = true) :
    Lasts id es ∨ (∃ reply, a = .reply id reply ∧ c.stage.hears reply = true) ∨ a = .cancel id := by
  by_cases hid : id = a.caller
  · subst hid
    cases h with
    | stay => exact Or.inl (List.forall_mem_nil _)
    | arrive => exact Or.inl (List.forall_mem_nil _)
    | probe => exact Or.inl (by simp [Lasts, AuthEvent.isEnd])
    | enqueue => exact Or.inl (List.forall_mem_nil _)
    | identify => exact Or.inl (by simp [Lasts, AuthEvent.isEnd])
    | proceed hlive stage =>
      obtain rfl := Option.some.inj (hlive.symm.trans live)
      rcases stage with hs | hs <;> simp [hs, AuthStage.isOwn] at own
    | settle hlive ends =>
      obtain rfl := Option.some.inj (hlive.symm.trans live)
      generalize AuthCall.stage _ = stage at ends own
      cases ends <;> cases own
    | finish hlive finishes =>
      obtain rfl := Option.some.inj (hlive.symm.trans live)
      refine Or.inr (Or.inl ⟨_, rfl, ?_⟩)
      generalize AuthCall.stage _ = stage at finishes
      cases finishes <;> rfl
    | abandon => exact Or.inr (Or.inr rfl)
    | withdraw => exact Or.inr (Or.inr rfl)
  · exact Or.inl fun e he _ => h.caller_ne hid e he

theorem Step.distinct (h : g.Step a g' es) (distinct : (g.calls.map (·.id)).Nodup) :
    (g'.calls.map (·.id)).Nodup := by
  have hmove (c : AuthCall) (stage : AuthStage) :
      ((g.moveTo c stage).calls.map (·.id)).Nodup :=
    nodup_replaceFirst (by simp) distinct
  have hremove (c : AuthCall) : ((g.remove c).calls.map (·.id)).Nodup :=
    nodup_replaceFirst (by simp) distinct
  cases h with
  | stay => exact distinct
  | @arrive id request fresh =>
    have hnew : id ∉ g.calls.map (·.id) := by
      simpa [call?] using fresh
    simpa [List.nodup_append, distinct] using hnew
  | probe => exact hmove _ _
  | enqueue => exact hmove _ _
  | proceed live stage ended proceeds =>
    cases proceeds with
    | decline => exact hremove _
    | send => exact hmove _ _
  | identify => exact hmove _ _
  | settle live ends proceeds =>
    cases proceeds with
    | decline => exact hremove _
    | send => exact hmove _ _
  | finish => exact hremove _
  | abandon => rw [handOver_calls]; exact hremove _
  | withdraw => exact hremove _


-- ---------------------------------------------------------------------------
-- What a step asks of the backend
-- ---------------------------------------------------------------------------

/-- The startup probe has come to an end. -/
def IsSettled (g : AuthGateway) : Prop :=
  ∃ outcome, g.probe = .settled outcome

theorem Proceeds.sent_cases (h : g.Proceeds c outcome g' es) (live : g.call? c.id = some c)
    (ended : g.IsSettled) {id : Nat} {call : BackendCall} (sent : .sent id call ∈ es) :
    c.id = id ∧ es = [.sent id call] ∧ g'.IsSettled ∧
      ∃ stage, c.request.Sends g'.store stage call ∧ g'.call? c.id = some { c with stage } := by
  cases h with
  | decline => simp at sent
  | send sends =>
    obtain ⟨rfl, rfl⟩ := AuthEvent.sent.inj (List.mem_singleton.1 sent)
    exact ⟨rfl, rfl, ended, _, sends, call?_moveTo_self live _⟩

/-- The backend hears from the call that runs the probe, and from calls that go on after it. A
step ends when the backend is asked. -/
theorem Step.sent_cases (h : g.Step a g' es) {id : Nat} {call : BackendCall}
    (sent : .sent id call ∈ es) :
    a.caller = id ∧ ∃ early c, es = early ++ [.sent id call] ∧ g.call? id = some c ∧
      ((call = .probe ∧ early = [] ∧ g'.call? id = some { c with stage := .probingIdentity } ∧
          (c.stage = .ready ∧ g.probe = .unstarted ∨
            c.stage = .queued ∧ g.probe = .running id)) ∨
        (call = .token ∧ early = [] ∧ ∃ identity, a = .reply id (.identity identity) ∧
          c.stage = .probingIdentity ∧
          g'.call? id = some { c with stage := .probingToken identity }) ∨
        (g'.IsSettled ∧ ∃ stage, c.request.Sends g'.store stage call ∧
          g'.call? id = some { c with stage })) := by
  cases h with
  | probe live free =>
    obtain ⟨rfl, rfl⟩ := AuthEvent.sent.inj (List.mem_singleton.1 sent)
    exact ⟨rfl, [], _, rfl, live, Or.inl ⟨rfl, rfl, call?_probe_self live, free⟩⟩
  | @identify c identity live stage =>
    obtain ⟨rfl, rfl⟩ := AuthEvent.sent.inj (List.mem_singleton.1 sent)
    have hself := call?_moveTo_self live (.probingToken identity)
    exact ⟨rfl, [], _, rfl, live, Or.inr (Or.inl ⟨rfl, rfl, _, rfl, stage, hself⟩)⟩
  | proceed live stage ended proceeds =>
    obtain ⟨rfl, rfl, rest⟩ := proceeds.sent_cases live ⟨_, ended⟩ sent
    exact ⟨rfl, [], _, rfl, live, Or.inr (Or.inr rest)⟩
  | settle live ends proceeds =>
    obtain ⟨rfl, rfl, rest⟩ := proceeds.sent_cases live ⟨_, rfl⟩ (by simpa using sent)
    exact ⟨rfl, [_, _], _, rfl, live, Or.inr (Or.inr rest)⟩
  | finish live finishes =>
    rcases List.mem_append.1 sent with sent | sent
    · exact absurd sent (finishes.not_mem_sent id call)
    · simp at sent
  | abandon => simp at sent
  | withdraw => simp at sent
  | _ => cases sent

/-- A call is where it was before the step, has not asked the backend for anything since, or
asks for it now. -/
theorem Step.live_cases (h : g.Step a g' es) (distinct : (g.calls.map (·.id)).Nodup) {id : Nat}
    (live : g'.call? id = some c) :
    (g.call? id = some c ∧ ∀ e ∈ es, e.caller ≠ id) ∨ c.stage = .ready ∨ c.stage = .queued ∨
      ∃ call, .sent id call ∈ es := by
  by_cases hid : id = a.caller
  · subst hid
    have hgone {c' : AuthCall} : (g.remove c').call? c'.id = none := call?_remove_self distinct
    cases h with
    | stay => exact Or.inl ⟨live, by simp⟩
    | arrive fresh =>
      obtain rfl := Option.some.inj ((call?_arrive_self fresh _).symm.trans live)
      exact Or.inr (Or.inl rfl)
    | probe => exact Or.inr (Or.inr (Or.inr ⟨_, List.mem_cons_self⟩))
    | enqueue hlive =>
      obtain rfl := Option.some.inj ((call?_moveTo_self hlive _).symm.trans live)
      exact Or.inr (Or.inr (Or.inl rfl))
    | identify => exact Or.inr (Or.inr (Or.inr ⟨_, List.mem_cons_self⟩))
    | proceed _ _ _ proceeds =>
      cases proceeds with
      | decline => cases hgone.symm.trans live
      | send => exact Or.inr (Or.inr (Or.inr ⟨_, List.mem_cons_self⟩))
    | settle _ _ proceeds =>
      cases proceeds with
      | decline => cases hgone.symm.trans live
      | @send _ call =>
        refine Or.inr (Or.inr (Or.inr ⟨call, ?_⟩))
        exact List.mem_cons_of_mem _ (List.mem_cons_of_mem _ List.mem_cons_self)
    | finish => cases hgone.symm.trans live
    | abandon =>
      rw [handOver_call?] at live
      cases hgone.symm.trans live
    | withdraw => cases hgone.symm.trans live
  · exact Or.inl ⟨(h.call?_of_ne hid).symm.trans live, h.caller_ne hid⟩


-- ---------------------------------------------------------------------------
-- Runs
-- ---------------------------------------------------------------------------

theorem runAll_append (g : AuthGateway) (first rest : List AuthAction) :
    g.runAll (first ++ rest) =
      (((g.runAll first).1.runAll rest).1,
       (g.runAll first).2 ++ ((g.runAll first).1.runAll rest).2) := by
  induction first generalizing g with
  | nil => rfl
  | cons a first ih => simp [runAll, ih, List.append_assoc]

/-- A run goes on by one step. -/
theorem runAll_snoc (g : AuthGateway) (actions : List AuthAction) (a : AuthAction) :
    g.runAll (actions ++ [a]) =
      (((g.runAll actions).1.act a).1, (g.runAll actions).2 ++ ((g.runAll actions).1.act a).2) := by
  simp [runAll_append, runAll]

/-- What the steps of a gateway keep holds after every run. -/
theorem runAll_induct {P : AuthGateway → Prop} (start : P g)
    (step : ∀ {g g' a es}, g.Step a g' es → P g → P g') (actions : List AuthAction) :
    P (g.runAll actions).1 := by
  induction actions using List.reverseRecOn with
  | nil => exact start
  | append_singleton actions a ih =>
    rw [runAll_snoc]
    exact step (step_act _ a) ih

theorem live_of_runAll_lasts {id : Nat} (live : g.call? id = some c)
    {actions : List AuthAction} (lasts : Lasts id (g.runAll actions).2) :
    ∃ c', (g.runAll actions).1.call? id = some c' ∧ c'.request = c.request := by
  induction actions using List.reverseRecOn with
  | nil => exact ⟨c, live, rfl⟩
  | append_singleton actions a ih =>
    rw [runAll_snoc, lasts_append] at lasts
    obtain ⟨c', hlive, hrequest⟩ := ih lasts.1
    rw [runAll_snoc]
    obtain ⟨c'', hlive', hrequest'⟩ := (step_act _ a).live_of_lasts hlive lasts.2
    exact ⟨c'', hlive', hrequest'.trans hrequest⟩

theorem pending_of_runAll_lasts {id : Nat} (live : g.call? id = some c)
    (own : c.stage.isOwn = true) {actions : List AuthAction}
    (lasts : Lasts id (g.runAll actions).2) :
    (g.runAll actions).1.call? id = some c ∧ ∀ e ∈ (g.runAll actions).2, e.caller ≠ id := by
  induction actions using List.reverseRecOn with
  | nil => exact ⟨live, List.forall_mem_nil _⟩
  | append_singleton actions a ih =>
    rw [runAll_snoc, lasts_append] at lasts
    obtain ⟨hlive, hquiet⟩ := ih lasts.1
    obtain ⟨hlive', hquiet'⟩ := (step_act _ a).pending_of_lasts hlive own lasts.2
    rw [runAll_snoc]
    exact ⟨hlive', List.forall_mem_append.2 ⟨hquiet, hquiet'⟩⟩

theorem runAll_store (g : AuthGateway) (actions : List AuthAction) :
    (g.runAll actions).1.store = g.store.replay (changesIn (g.runAll actions).2) := by
  induction actions using List.reverseRecOn with
  | nil => rfl
  | append_singleton actions a ih =>
    rw [runAll_snoc, changesIn_append, SessionStore.replay_append, ← ih]
    exact (step_act _ a).store_eq

/-- All that happens to a new gateway on `store` in the steps of a list. -/
def history (store : SessionStore) (actions : List AuthAction) : AuthGateway × List AuthEvent :=
  ({ store } : AuthGateway).runAll actions

theorem history_append (store : SessionStore) (first rest : List AuthAction) :
    history store (first ++ rest) =
      (((history store first).1.runAll rest).1,
       (history store first).2 ++ ((history store first).1.runAll rest).2) :=
  runAll_append _ first rest

theorem history_snoc (store : SessionStore) (actions : List AuthAction) (a : AuthAction) :
    history store (actions ++ [a]) =
      (((history store actions).1.act a).1,
       (history store actions).2 ++ ((history store actions).1.act a).2) :=
  runAll_snoc _ actions a

end AuthGateway

end DashboardClient
