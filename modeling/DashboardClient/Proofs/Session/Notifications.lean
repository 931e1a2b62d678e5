import DashboardClient.Proofs.Session.Shape
import DashboardClient.Proofs.Session.Store
import DashboardClient.Proofs.Watched

/-!
# Notifications of a session store

Receivers are told of exactly the writes that begin a session or bring a new token to the one that
lasts. A new token answers two questions with one write: whether its session still lasts, and
whether there was anything to change. Only the second one makes a version.
-/

namespace DashboardClient

-- ---------------------------------------------------------------------------
-- Writes
-- ---------------------------------------------------------------------------

namespace SessionStore

variable (s : SessionStore)

/-- Receivers are told of the write: it begins a session, or it is a token that is taken and is not
the one that is there. -/
def tells : StoreWrite → Bool
  | .replaceToken epoch token =>
    (s.replaceToken epoch.toNat token).1 && s.token? != some token
  | _ => true

theorem replaceToken_makes (epoch : Nat) (token : String) :
    Watched.Makes ((s.replaceToken epoch token).1 && s.token? != some token).toNat s.watched
      (s.replaceToken epoch token).2.watched := by
  by_cases lasts : s.phase = .authenticated ∧ epoch = s.epoch
  · obtain ⟨authenticated, rfl⟩ := lasts
    obtain ⟨identity, current, hs⟩ := s.phase_eq_authenticated_iff.1 authenticated
    rw [s.replaceToken_of_current hs, token?, hs, SessionState.token?]
    by_cases same : current = token
    · simpa [same] using Watched.Makes.refl s.watched
    · have hother : (some current != some token) = true := by simpa using same
      rw [if_neg same, hother]
      exact Watched.Makes.write s.watched _
  · rw [s.replaceToken_of_past token lasts]
    exact Watched.Makes.refl s.watched

/-- A write makes the version that receivers are told of, and no other one. -/
theorem put_makes (w : StoreWrite) :
    Watched.Makes (s.tells w).toNat s.watched (s.put w).watched := by
  cases w with
  | replaceToken epoch token => exact s.replaceToken_makes epoch.toNat token
  | _ => exact Watched.Makes.write s.watched _

end SessionStore


-- ---------------------------------------------------------------------------
-- Receivers
-- ---------------------------------------------------------------------------

theorem Receivers.lookup_filter_ne (rs : Receivers) (name other : String) :
    (rs.filter (·.1 != name)).lookup other = if other = name then none else rs.lookup other := by
  induction rs with
  | nil => split <;> rfl
  | cons entry rs ih =>
    obtain ⟨key, kept⟩ := entry
    by_cases hkey : key = name
    · subst hkey
      rw [List.filter_cons_of_neg (by simp), ih]
      split
      · rfl
      · next hne => rw [List.lookup_cons, beq_false_of_ne hne]
    · rw [List.filter_cons_of_pos (by simpa using hkey), List.lookup_cons, List.lookup_cons, ih]
      by_cases hother : other = key
      · subst hother
        simp [hkey]
      · rw [beq_false_of_ne hother]

theorem Receivers.lookup_set (rs : Receivers) (name other : String) (r : Receiver) :
    (rs.set name r).lookup other = if other = name then some r else rs.lookup other := by
  rw [set, List.lookup_cons]
  split
  · next h => rw [if_pos (by simpa using h)]
  · next h =>
    have hne : other ≠ name := by simpa using h
    rw [Receivers.lookup_filter_ne, if_neg hne, if_neg hne]

/-- What is done with the handles of a store and by those who observe it. A wait for the session to
resolve is a task of its own. -/
inductive HubAction where
  | handle (a : HandleAction)
  | subscribe (handle receiver : String)
  | markSeen (receiver : String)
  | await (handle task : String)
  | runWaiters

namespace SessionHub

variable (hub : SessionHub)

/-- Do something. Handles and receivers that it needs must be there. -/
def perform : HubAction → SessionHub
  | .handle a => (hub.act a).1
  | .subscribe handle receiver =>
    if handle ∈ hub.handles then hub.subscribe receiver else hub
  | .markSeen receiver =>
    if (hub.receivers.lookup receiver).isSome then hub.markSeen receiver else hub
  | .await handle task => if handle ∈ hub.handles then hub.await task else hub
  | .runWaiters => hub.runWaiters.1

/-- Do everything in a list. -/
def performAll (actions : List HubAction) : SessionHub :=
  actions.foldl perform hub

/-- All that happens around a new store. -/
def course (actions : List HubAction) : SessionHub :=
  performAll {} actions

/-- The receiver is made, or marks the value as seen. -/
def looks (receiver : String) : HubAction → Bool
  | .subscribe handle name => name = receiver && handle ∈ hub.handles
  | .markSeen name => name = receiver && (hub.receivers.lookup receiver).isSome
  | _ => false

/-- The action is a write through a handle that is there, and receivers are told of it. -/
def tells : HubAction → Bool
  | .handle (.write handle w) => handle ∈ hub.handles && hub.store.tells w
  | _ => false

/-- How many of the actions receivers are told of. -/
def tellingIn (hub : SessionHub) : List HubAction → Nat
  | [] => 0
  | a :: rest => (hub.tells a).toNat + (hub.perform a).tellingIn rest

theorem course_append (before since : List HubAction) :
    course (before ++ since) = (course before).performAll since :=
  List.foldl_append

theorem runWaiters_keeps :
    hub.runWaiters.1.store = hub.store ∧ hub.runWaiters.1.receivers = hub.receivers := by
  refine List.foldlRecOn (motive := fun (now : SessionHub × List (String × WaitEnd)) =>
    now.1.store = hub.store ∧ now.1.receivers = hub.receivers) hub.waiters _ ⟨rfl, rfl⟩ ?_
  rintro ⟨now, ended⟩ kept task -
  dsimp only
  split <;> exact kept

theorem act_receivers (a : HandleAction) : (hub.act a).1.receivers = hub.receivers := by
  cases a with
  | release handle => rfl
  | _ => simp only [act]; split <;> rfl

theorem perform_makes (a : HubAction) :
    Watched.Makes (hub.tells a).toNat hub.store.watched (hub.perform a).store.watched := by
  cases a with
  | handle a =>
    cases a with
    | write handle w =>
      simp only [perform, act, tells]
      by_cases there : handle ∈ hub.handles
      · simpa [there, update] using hub.store.put_makes w
      · simpa [there] using Watched.Makes.refl hub.store.watched
    | clone handle copy =>
      simp only [perform, act]
      split <;> exact Watched.Makes.refl _
    | release handle => exact Watched.Makes.refl _
  | runWaiters =>
    rw [perform, hub.runWaiters_keeps.1]
    exact Watched.Makes.refl _
  | _ =>
    simp only [perform]
    split <;> exact Watched.Makes.refl _

theorem performAll_makes (actions : List HubAction) :
    Watched.Makes (hub.tellingIn actions) hub.store.watched
      (hub.performAll actions).store.watched := by
  induction actions generalizing hub with
  | nil => exact Watched.Makes.refl _
  | cons a rest ih => exact (hub.perform_makes a).trans (ih (hub.perform a))

theorem tellingIn_ne_zero_iff (actions : List HubAction) :
    hub.tellingIn actions ≠ 0 ↔
      ∃ first a rest, actions = first ++ a :: rest ∧ (hub.performAll first).tells a = true := by
  induction actions generalizing hub with
  | nil => simp [tellingIn]
  | cons a rest ih =>
    rw [tellingIn, Ne, Nat.add_eq_zero_iff, not_and_or, ← Ne, ← Ne, ih]
    constructor
    · rintro (now | ⟨first, b, more, rfl, told⟩)
      · have htold : hub.tells a = true := by simpa using now
        exact ⟨[], a, rest, rfl, htold⟩
      · exact ⟨a :: first, b, more, rfl, told⟩
    · rintro ⟨first, b, more, hsplit, told⟩
      cases first with
      | nil =>
        obtain ⟨rfl, -⟩ := List.cons.inj hsplit
        have htold : hub.tells a = true := told
        exact .inl (by rw [htold]; decide)
      | cons head first =>
        obtain ⟨rfl, rfl⟩ := List.cons.inj hsplit
        exact .inr ⟨first, b, more, rfl, told⟩

/-- A receiver that looks has seen what is there. -/
theorem lookup_perform_of_looks {receiver : String} {a : HubAction}
    (looking : hub.looks receiver a = true) :
    (hub.perform a).receivers.lookup receiver =
      some (hub.perform a).store.watched.subscribe := by
  cases a with
  | subscribe handle name =>
    obtain ⟨rfl, there⟩ : name = receiver ∧ handle ∈ hub.handles := by
      simpa [looks] using looking
    rw [perform, if_pos there, subscribe, Receivers.lookup_set, if_pos rfl]
  | markSeen name =>
    obtain ⟨rfl, known⟩ : name = receiver ∧ (hub.receivers.lookup receiver).isSome := by
      simpa [looks] using looking
    rw [perform, if_pos known, markSeen, subscribe, Receivers.lookup_set, if_pos rfl]
  | _ => cases looking

/-- A receiver that does not look has seen what it had seen. -/
theorem lookup_perform_of_not_looks {receiver : String} {a : HubAction}
    (other : hub.looks receiver a = false) :
    (hub.perform a).receivers.lookup receiver = hub.receivers.lookup receiver := by
  cases a with
  | handle a => rw [perform, hub.act_receivers]
  | subscribe handle name =>
    rw [perform]
    split
    · next there =>
      have hname : receiver ≠ name := by simpa [looks, there, eq_comm] using other
      rw [subscribe, Receivers.lookup_set, if_neg hname]
    · rfl
  | markSeen name =>
    rw [perform]
    split
    · next known =>
      have hname : receiver ≠ name := by
        rintro rfl
        simp [looks, known] at other
      rw [markSeen, subscribe, Receivers.lookup_set, if_neg hname]
    · rfl
  | await handle task =>
    rw [perform]
    split <;> rfl
  | runWaiters => rw [perform, hub.runWaiters_keeps.2]

theorem lookup_performAll {receiver : String} {actions : List HubAction}
    (others : ∀ first a rest, actions = first ++ a :: rest →
      (hub.performAll first).looks receiver a = false) :
    (hub.performAll actions).receivers.lookup receiver = hub.receivers.lookup receiver := by
  induction actions generalizing hub with
  | nil => rfl
  | cons a rest ih =>
    have hrest := ih (hub.perform a) fun first b more hsplit =>
      others (a :: first) b more (congrArg (a :: ·) hsplit)
    exact hrest.trans (hub.lookup_perform_of_not_looks (others [] a rest rfl))

end SessionHub


-- ---------------------------------------------------------------------------
-- Exactness
-- ---------------------------------------------------------------------------

/-- Whatever is done with a store through whichever handles: while somebody is left who could write
it, a receiver has news exactly if, since it looked last, a session began or a new token came to
the one that lasts. A state that is not the same has a new version. A token is taken exactly for
the session that lasts, a token that is not changes nothing, and one that is changes nothing but
the token, without a version if it is the same one. -/
theorem store_notifications_exact (actions : List HubAction) :
    let hub := SessionHub.course actions
    (∀ receiver before look since,
      actions = before ++ look :: since →
      (SessionHub.course before).looks receiver look = true →
      (∀ first a rest, since = first ++ a :: rest →
        (SessionHub.course (before ++ look :: first)).looks receiver a = false) →
      ∃ r, hub.receivers.lookup receiver = some r ∧
        (hub.isOpen = true →
          (hub.store.watched.news hub.isOpen r = .changed ↔
            ∃ first a rest, since = first ++ a :: rest ∧
              (SessionHub.course (before ++ look :: first)).tells a = true))) ∧
    (∀ a, let next := hub.perform a
      next.store.state ≠ hub.store.state →
        next.store.watched.version = hub.store.watched.version + 1) ∧
    ∀ epoch token,
      let applied := (hub.store.replaceToken epoch token).1
      let next := (hub.store.replaceToken epoch token).2
      (applied = true ↔ hub.store.phase = .authenticated ∧ epoch = hub.store.epoch) ∧
      (applied = false → next = hub.store) ∧
      (applied = true → ∃ identity current,
        hub.store.state = .authenticated identity current ∧
        next.state = .authenticated identity token ∧
        next.epoch = hub.store.epoch ∧
        next.watched.version = hub.store.watched.version + if current = token then 0 else 1) := by
  intro hub
  refine ⟨?news, ?changes, ?tokens⟩
  case news =>
    intro receiver before look since hactions looking others
    have hcourse (first : List HubAction) :
        SessionHub.course (before ++ look :: first) =
          ((SessionHub.course before).perform look).performAll first :=
      SessionHub.course_append before (look :: first)
    have hseen := (SessionHub.course before).lookup_perform_of_looks looking
    have hhub : hub = ((SessionHub.course before).perform look).performAll since := by
      rw [← hcourse, ← hactions]
    simp only [hcourse] at others ⊢
    generalize (SessionHub.course before).perform look = seen at *
    refine ⟨seen.store.watched.subscribe, ?_, ?_⟩
    · rw [hhub, seen.lookup_performAll others, hseen]
    · intro alive
      rw [← seen.tellingIn_ne_zero_iff since]
      have hmakes := seen.performAll_makes since
      rw [← hhub] at hmakes
      exact hmakes.news_eq_changed_iff alive
  case changes =>
    intro a next changed
    exact (hub.perform_makes a).version_eq_succ changed
  case tokens =>
    intro epoch token applied next
    have htaken : applied = true ↔ hub.store.phase = .authenticated ∧ epoch = hub.store.epoch :=
      hub.store.replaceToken_eq_true_iff epoch token
    refine ⟨htaken, ?past, ?current⟩
    case past =>
      intro rejected
      have past := htaken.not.1 (ne_true_of_eq_false rejected)
      exact congrArg Prod.snd (hub.store.replaceToken_of_past token past)
    case current =>
      intro taken
      obtain ⟨authenticated, rfl⟩ := htaken.1 taken
      obtain ⟨identity, current, hs⟩ := hub.store.phase_eq_authenticated_iff.1 authenticated
      refine ⟨identity, current, hs, ?_⟩
      rw [show next = _ from congrArg Prod.snd (hub.store.replaceToken_of_current hs token)]
      dsimp only
      by_cases same : current = token
      · subst same
        rw [if_pos rfl, if_pos rfl]
        exact ⟨hs, rfl, rfl⟩
      · rw [if_neg same, if_neg same]
        exact ⟨rfl, rfl, rfl⟩

/-- A receiver that was made after a login is told of a new token, which comes through a copy of the
handle that is gone. A token for another session is not taken. -/
theorem store_notifications_of_token :
    let before : List HubAction :=
      [.handle (.clone "main" "copy"), .handle (.write "copy" (.setAuthenticated "ada" "old"))]
    let look : HubAction := .subscribe "main" "view"
    let quiet : List HubAction :=
      [.handle (.release "main"), .handle (.write "copy" (.replaceToken 1 "old"))]
    let write : HubAction := .handle (.write "copy" (.replaceToken 1 "new"))
    let hub := SessionHub.course (before ++ look :: (quiet ++ [write]))
    (∃ r, hub.receivers.lookup "view" = some r ∧
      hub.store.watched.news hub.isOpen r = .changed) ∧
    (hub.perform (.handle (.write "copy" .resetAnonymous))).store.watched.version =
      hub.store.watched.version + 1 ∧
    (hub.store.replaceToken 1 "new").1 = true ∧
    (hub.store.replaceToken 7 "forged").2 = hub.store := by
  intro before look quiet write hub
  obtain ⟨news, changes, tokens⟩ :=
    store_notifications_exact (before ++ look :: (quiet ++ [write]))
  have others : ∀ first a rest, quiet ++ [write] = first ++ a :: rest →
      (SessionHub.course (before ++ look :: first)).looks "view" a = false := by
    intro first a rest hsplit
    have ha : a ∈ quiet ++ [write] := hsplit ▸ List.mem_append_cons_self
    simp only [quiet, write, List.cons_append, List.nil_append, List.mem_cons, List.not_mem_nil,
      or_false] at ha
    obtain rfl | rfl | rfl := ha <;> rfl
  obtain ⟨r, hr, hnews⟩ := news "view" before look _ rfl (by decide +kernel) others
  refine ⟨⟨r, hr, (hnews (by decide +kernel)).2 ?_⟩, changes _ (by decide +kernel),
    (tokens 1 "new").1.2 (by decide +kernel), (tokens 7 "forged").2.1 (by decide +kernel)⟩
  exact ⟨quiet, write, [], rfl, by decide +kernel⟩

end DashboardClient
