import DashboardClient.Proofs.Session.Notifications

/-!
# Waiting for a resolved session

A task that waits for the session to resolve is run when it is new and when it is told of a change,
or of the end of all changes. So it might sleep through the one change that it waits for. It does
not: what a sleeping task has seen is the current version only while the session is being resolved.
And it is never told that nobody is left to write, since it holds on to the store itself.
-/

namespace DashboardClient

-- ---------------------------------------------------------------------------
-- Tasks that wait
-- ---------------------------------------------------------------------------

/-- The hub of a store, with what each waiting task that has run has seen of the store. -/
structure WaitingRoom where
  hub : SessionHub := {}
  seen : Receivers := []

/-- What is done around a store without writing it. -/
inductive RoomAction where
  | clone (handle copy : String)
  | release (handle : String)
  | await (handle task : String)
  | run (task : String)

namespace WaitingRoom

variable {room : WaitingRoom} {task : String} {store : SessionStore}

/-- The task is new, or was told of something since it ran. -/
def isRunnable (room : WaitingRoom) (task : String) : Bool :=
  room.hub.waiters.contains task &&
    (room.seen.lookup task).all fun r =>
      room.hub.store.watched.news room.hub.isOpen r != .unchanged

/-- The task has ended and lets go of the store. -/
def leave (room : WaitingRoom) (task : String) : WaitingRoom where
  hub := { room.hub with waiters := room.hub.waiters.filter (· != task) }
  seen := room.seen.filter (·.1 != task)

/-- Run a task, if it is runnable. It looks at the session, and ends or sleeps again. -/
def run (room : WaitingRoom) (task : String) : WaitingRoom × Option WaitEnd :=
  if room.isRunnable task then
    match room.hub.pollWaiter with
    | some e => (room.leave task, some e)
    | none => ({ room with seen := room.seen.set task room.hub.store.watched.subscribe }, none)
  else (room, none)

/-- Run the tasks of a list one after another. -/
def runAll (room : WaitingRoom) : List String → WaitingRoom × List (String × WaitEnd)
  | [] => (room, [])
  | task :: rest =>
    let (next, ended) := room.run task
    let (last, later) := next.runAll rest
    (last, (ended.map (task, ·)).toList ++ later)

def act (room : WaitingRoom) : RoomAction → WaitingRoom
  | .clone handle copy => { room with hub := (room.hub.act (.clone handle copy)).1 }
  | .release handle => { room with hub := (room.hub.act (.release handle)).1 }
  | .await handle task =>
    if handle ∈ room.hub.handles ∧ task ∉ room.hub.waiters then
      { room with hub := room.hub.await task }
    else room
  | .run task => (room.run task).1

/-- The store is written. -/
def update (room : WaitingRoom) (store : SessionStore) : WaitingRoom :=
  { room with hub := room.hub.update fun _ => store }


-- ---------------------------------------------------------------------------
-- Nobody sleeps through the boundary
-- ---------------------------------------------------------------------------

/-- No call waits twice, and no task that sleeps has seen a session that is resolved. -/
structure IsAttentive (room : WaitingRoom) : Prop where
  distinct : room.hub.waiters.Nodup
  waits : ∀ {task r}, room.seen.lookup task = some r → task ∈ room.hub.waiters
  seen : ∀ {task r}, room.seen.lookup task = some r →
    r.seen ≤ room.hub.store.watched.version ∧
      (r.seen = room.hub.store.watched.version → room.hub.store.state.isResolving = true)

theorem isOpen_of_mem (waiting : task ∈ room.hub.waiters) : room.hub.isOpen = true := by
  have hsome : room.hub.waiters.isEmpty = false :=
    List.isEmpty_eq_false_iff.2 (List.ne_nil_of_mem waiting)
  rw [SessionHub.isOpen, hsome, Bool.not_false, Bool.or_true]

theorem pollWaiter_of_resolved {hub : SessionHub} (resolved : hub.store.state.isResolving = false) :
    hub.pollWaiter = some (.resolved hub.store.state) := by
  rw [SessionHub.pollWaiter, resolved]
  rfl

theorem pollWaiter_of_resolving (waiting : task ∈ room.hub.waiters)
    (resolving : room.hub.store.state.isResolving = true) : room.hub.pollWaiter = none := by
  rw [SessionHub.pollWaiter, resolving, isOpen_of_mem waiting]
  rfl

theorem isResolving_of_pollWaiter {hub : SessionHub} (sleeps : hub.pollWaiter = none) :
    hub.store.state.isResolving = true := by
  by_contra resolved
  rw [pollWaiter_of_resolved (Bool.not_eq_true _ ▸ resolved)] at sleeps
  cases sleeps

theorem mem_of_isRunnable (runnable : room.isRunnable task = true) :
    task ∈ room.hub.waiters := by
  rw [isRunnable, Bool.and_eq_true, List.contains_iff_mem] at runnable
  exact runnable.1

namespace IsAttentive

/-- Once the session is resolved, every task that waits is told of it or new. -/
theorem isRunnable_of_resolved (h : room.IsAttentive) (waiting : task ∈ room.hub.waiters)
    (resolved : room.hub.store.state.isResolving = false) : room.isRunnable task = true := by
  rw [isRunnable, List.contains_iff_mem.2 waiting, Bool.true_and]
  cases hseen : room.seen.lookup task with
  | none => rfl
  | some r =>
    have hpast : r.seen ≠ room.hub.store.watched.version := by
      intro hsame
      rw [(h.seen hseen).2 hsame] at resolved
      cases resolved
    have hnews : room.hub.store.watched.hasNews r = true := by
      rwa [Watched.hasNews, bne_iff_ne]
    rw [Option.all_some, Watched.news, isOpen_of_mem waiting, hnews]
    rfl

theorem run_of_resolved (h : room.IsAttentive) (waiting : task ∈ room.hub.waiters)
    (resolved : room.hub.store.state.isResolving = false) :
    room.run task = (room.leave task, some (.resolved room.hub.store.state)) := by
  rw [run, if_pos (h.isRunnable_of_resolved waiting resolved), pollWaiter_of_resolved resolved]

/-- A task that looks only when it is told to ends exactly where one that always looks does. -/
theorem run_eq_pollWaiter (h : room.IsAttentive) (waiting : task ∈ room.hub.waiters) :
    (room.run task).2 = room.hub.pollWaiter := by
  cases hresolving : room.hub.store.state.isResolving with
  | true =>
    have hpoll := pollWaiter_of_resolving waiting hresolving
    rw [run, hpoll]
    split <;> rfl
  | false => rw [h.run_of_resolved waiting hresolving, pollWaiter_of_resolved hresolving]

theorem new : IsAttentive {} where
  distinct := List.nodup_nil
  waits hseen := nomatch hseen
  seen hseen := nomatch hseen

/-- A write is one that every sleeping task is told of, or changes nothing. -/
theorem update (h : room.IsAttentive)
    (makes : ∃ n, Watched.Makes n room.hub.store.watched store.watched) :
    (room.update store).IsAttentive where
  distinct := h.distinct
  waits := h.waits
  seen {task r} hseen := by
    obtain ⟨n, hmakes⟩ := makes
    obtain ⟨hle, hlast⟩ := h.seen hseen
    have hversion : room.hub.store.watched.version ≤ store.watched.version :=
      hmakes.version ▸ Nat.le_add_right _ _
    refine ⟨Nat.le_trans hle hversion, fun hsame => ?_⟩
    have hkept := hmakes.eq_of_version_eq (Nat.le_antisymm (hsame ▸ hle) hversion)
    have hseen' := hlast (Nat.le_antisymm hle (hsame ▸ hversion))
    rwa [SessionStore.state, ← hkept] at hseen'

theorem congr {room' : WaitingRoom} (h : room.IsAttentive)
    (store : room'.hub.store = room.hub.store)
    (waiters : room'.hub.waiters = room.hub.waiters) (seen : room'.seen = room.seen) :
    room'.IsAttentive where
  distinct := waiters ▸ h.distinct
  waits hseen := waiters ▸ h.waits (seen ▸ hseen)
  seen hseen := store ▸ h.seen (seen ▸ hseen)

theorem leave (h : room.IsAttentive) (task : String) : (room.leave task).IsAttentive := by
  have hkept {other : String} {r : Receiver}
      (hseen : (room.leave task).seen.lookup other = some r) :
      other ≠ task ∧ room.seen.lookup other = some r := by
    rw [WaitingRoom.leave, Receivers.lookup_filter_ne] at hseen
    split at hseen
    · cases hseen
    · exact ⟨‹_›, hseen⟩
  refine ⟨h.distinct.filter _, fun hseen => ?_, fun hseen => h.seen (hkept hseen).2⟩
  obtain ⟨hother, hseen⟩ := hkept hseen
  exact List.mem_filter.2 ⟨h.waits hseen, by simpa using hother⟩

/-- A task that sleeps again has seen a session that is being resolved. -/
theorem sleep (h : room.IsAttentive) (waiting : task ∈ room.hub.waiters)
    (sleeps : room.hub.pollWaiter = none) : IsAttentive
      { room with seen := room.seen.set task room.hub.store.watched.subscribe } where
  distinct := h.distinct
  waits hseen := by
    rw [Receivers.lookup_set] at hseen
    split at hseen
    · next hself => exact hself ▸ waiting
    · exact h.waits hseen
  seen hseen := by
    rw [Receivers.lookup_set] at hseen
    split at hseen
    · cases hseen
      exact ⟨Nat.le_refl _, fun _ => isResolving_of_pollWaiter sleeps⟩
    · exact h.seen hseen

theorem run (h : room.IsAttentive) (task : String) : (room.run task).1.IsAttentive := by
  rw [WaitingRoom.run]
  split
  · next runnable =>
    split
    · exact h.leave task
    · next sleeps => exact h.sleep (mem_of_isRunnable runnable) sleeps
  · exact h

theorem await (h : room.IsAttentive) (fresh : task ∉ room.hub.waiters) :
    IsAttentive { room with hub := room.hub.await task } where
  distinct := (List.perm_append_singleton task _).nodup_iff.2
    (List.nodup_cons.2 ⟨fresh, h.distinct⟩)
  waits hseen := List.mem_append_left _ (h.waits hseen)
  seen := h.seen

theorem act (h : room.IsAttentive) (a : RoomAction) : (room.act a).IsAttentive := by
  cases a with
  | clone handle copy =>
    rw [WaitingRoom.act, SessionHub.act]
    split
    · exact h.congr rfl rfl rfl
    · exact h
  | release handle => exact h.congr rfl rfl rfl
  | await handle task =>
    rw [WaitingRoom.act]
    split
    · next hfresh => exact h.await hfresh.2
    · exact h
  | run task => exact h.run task

end IsAttentive


-- ---------------------------------------------------------------------------
-- Running many tasks
-- ---------------------------------------------------------------------------

@[simp] theorem run_store (room : WaitingRoom) (task : String) :
    (room.run task).1.hub.store = room.hub.store := by
  rw [run]
  split
  · split <;> rfl
  · rfl

/-- A call that ends is no longer among those that wait, and all others still are. -/
theorem IsAttentive.run_waiters_perm (h : room.IsAttentive) (task : String) :
    (((room.run task).2.map fun _ => task).toList ++ (room.run task).1.hub.waiters).Perm
      room.hub.waiters := by
  rw [WaitingRoom.run]
  split
  · next runnable =>
    split
    · have hleave : (room.leave task).hub.waiters = room.hub.waiters.erase task :=
        (h.distinct.erase_eq_filter task).symm
      rw [hleave]
      exact (List.perm_cons_erase (mem_of_isRunnable runnable)).symm
    · exact .refl _
  · exact .refl _

/-- A call ends with the session as it stands, which is resolved. -/
theorem eq_of_run {e : WaitEnd} (ended : (room.run task).2 = some e) :
    e = .resolved room.hub.store.state ∧ room.hub.store.state.isResolving = false := by
  rw [run] at ended
  split at ended
  case isFalse => cases ended
  case isTrue runnable =>
    have hpoll : room.hub.pollWaiter = some e := by
      rw [← ended]
      split <;> simp [*]
    cases hresolving : room.hub.store.state.isResolving with
    | true =>
      rw [pollWaiter_of_resolving (mem_of_isRunnable runnable) hresolving] at hpoll
      cases hpoll
    | false =>
      rw [pollWaiter_of_resolved hresolving] at hpoll
      exact ⟨(Option.some.inj hpoll).symm, rfl⟩

theorem run_of_resolving (resolving : room.hub.store.state.isResolving = true) (task : String) :
    (room.run task).2 = none := by
  cases hended : (room.run task).2 with
  | none => rfl
  | some e =>
    rw [(eq_of_run hended).2] at resolving
    cases resolving

theorem hub_run_of_resolving (resolving : room.hub.store.state.isResolving = true) :
    (room.run task).1.hub = room.hub := by
  have hsleeps := run_of_resolving resolving task
  rw [run] at hsleeps ⊢
  split
  · next runnable =>
    split
    · next hpoll => simp [runnable, hpoll] at hsleeps
    · rfl
  · rfl

theorem mem_run_of_ne {other : String} (ne : other ≠ task) (waiting : other ∈ room.hub.waiters) :
    other ∈ (room.run task).1.hub.waiters := by
  rw [run]
  split
  · split
    · exact List.mem_filter.2 ⟨waiting, by simpa using ne⟩
    · exact waiting
  · exact waiting

/-- Every call that ends does so once, and every other one goes on waiting. -/
theorem IsAttentive.runAll_perm (h : room.IsAttentive) (tasks : List String) :
    ((room.runAll tasks).2.map Prod.fst ++ (room.runAll tasks).1.hub.waiters).Perm
      room.hub.waiters := by
  induction tasks generalizing room with
  | nil => exact .refl _
  | cons task rest ih =>
    have hrest := ih (h.run task)
    have hnames : ((room.run task).2.map (task, ·)).toList.map Prod.fst =
        ((room.run task).2.map fun _ => task).toList := by
      cases (room.run task).2 <;> rfl
    rw [runAll, List.map_append, hnames, List.append_assoc]
    exact (hrest.append_left _).trans (h.run_waiters_perm task)

theorem IsAttentive.not_mem_run (h : room.IsAttentive)
    (resolved : room.hub.store.state.isResolving = false) (task : String) :
    task ∉ (room.run task).1.hub.waiters := by
  by_cases waiting : task ∈ room.hub.waiters
  · rw [h.run_of_resolved waiting resolved]
    simp [WaitingRoom.leave]
  · exact fun hmem => waiting ((h.run_waiters_perm task).subset (List.mem_append_right _ hmem))

theorem IsAttentive.not_mem_runAll (h : room.IsAttentive)
    (resolved : room.hub.store.state.isResolving = false) {tasks : List String}
    (mem : task ∈ tasks) : task ∉ (room.runAll tasks).1.hub.waiters := by
  induction tasks generalizing room with
  | nil => cases mem
  | cons first rest ih =>
    have hresolved : (room.run first).1.hub.store.state.isResolving = false := by
      rwa [run_store]
    rcases List.mem_cons.1 mem with rfl | mem
    · intro hmem
      have hlater := ((h.run task).runAll_perm rest).subset (List.mem_append_right _ hmem)
      exact h.not_mem_run resolved task hlater
    · exact ih (h.run first) hresolved mem

/-- Once the session is resolved, every order of the tasks that wait ends all of them. -/
theorem IsAttentive.waiters_runAll (h : room.IsAttentive)
    (resolved : room.hub.store.state.isResolving = false) {tasks : List String}
    (all : ∀ task ∈ room.hub.waiters, task ∈ tasks) :
    (room.runAll tasks).1.hub.waiters = [] := by
  refine List.eq_nil_iff_forall_not_mem.2 fun task hmem => ?_
  have hbefore := (h.runAll_perm tasks).subset (List.mem_append_right _ hmem)
  exact h.not_mem_runAll resolved (all task hbefore) hmem

/-- Run one task of the hub, whatever it has seen. -/
def pollNext (now : SessionHub × List (String × WaitEnd)) (task : String) :
    SessionHub × List (String × WaitEnd) :=
  match now.1.pollWaiter with
  | some e => ({ now.1 with waiters := now.1.waiters.filter (· != task) }, now.2 ++ [(task, e)])
  | none => now

theorem IsAttentive.pollNext_eq (h : room.IsAttentive) (waiting : task ∈ room.hub.waiters)
    (ended : List (String × WaitEnd)) : pollNext (room.hub, ended) task =
      ((room.run task).1.hub, ended ++ ((room.run task).2.map (task, ·)).toList) := by
  cases hresolving : room.hub.store.state.isResolving with
  | true =>
    rw [pollNext, pollWaiter_of_resolving waiting hresolving, run_of_resolving hresolving,
      hub_run_of_resolving hresolving]
    simp
  | false =>
    rw [pollNext, pollWaiter_of_resolved hresolving, h.run_of_resolved waiting hresolving]
    rfl

/-- Running every waiting task of the hub, whatever it has seen, comes to the same. -/
theorem IsAttentive.runWaiters_eq (h : room.IsAttentive) :
    room.hub.runWaiters =
      ((room.runAll room.hub.waiters).1.hub, (room.runAll room.hub.waiters).2) := by
  have hall {room : WaitingRoom} (h : room.IsAttentive) {tasks : List String}
      (distinct : tasks.Nodup) (waiting : ∀ task ∈ tasks, task ∈ room.hub.waiters)
      (ended : List (String × WaitEnd)) : tasks.foldl pollNext (room.hub, ended) =
        ((room.runAll tasks).1.hub, ended ++ (room.runAll tasks).2) := by
    induction tasks generalizing room ended with
    | nil => simp [runAll]
    | cons task rest ih =>
      rw [List.nodup_cons] at distinct
      rw [List.forall_mem_cons] at waiting
      have hnext : ∀ other ∈ rest, other ∈ (room.run task).1.hub.waiters := by
        intro other hother
        have hne : other ≠ task := fun hself => distinct.1 (hself ▸ hother)
        exact mem_run_of_ne hne (waiting.2 other hother)
      rw [List.foldl_cons, h.pollNext_eq waiting.1, ih (h.run task) distinct.2 hnext, runAll,
        List.append_assoc]
  exact hall h h.distinct (fun _ hmem => hmem) []


-- ---------------------------------------------------------------------------
-- What callers are promised
-- ---------------------------------------------------------------------------

/-- Calls end if the boundary was crossed, and only then: with the session as it stands, which is
resolved. Those that wait hold the store open. -/
structure ReleasesIff (room : WaitingRoom) (crossed : Prop) : Prop where
  early : ¬crossed → ∀ task, (room.run task).2 = none
  ends : ∀ task e, (room.run task).2 = some e →
    e = .resolved room.hub.store.state ∧ room.hub.store.state.isResolving = false
  held : ∀ task ∈ room.hub.waiters, room.hub.isOpen = true
  /-- To look only when told to misses nothing. -/
  polled : ∀ task ∈ room.hub.waiters, (room.run task).2 = room.hub.pollWaiter
  released : crossed → ∀ task ∈ room.hub.waiters, room.isRunnable task = true ∧
    (room.run task).2 = some (.resolved room.hub.store.state)
  rested : crossed → (∀ task, room.isRunnable task = false) → room.hub.waiters = []
  served : crossed → ∀ tasks, (∀ task ∈ room.hub.waiters, task ∈ tasks) →
    (room.runAll tasks).1.hub.waiters = [] ∧
      ((room.runAll tasks).2.map Prod.fst).Perm room.hub.waiters
  later : crossed → ∀ handle ∈ room.hub.handles, ∀ task, task ∉ room.hub.waiters →
    ((room.act (.await handle task)).run task).2 = some (.resolved room.hub.store.state)
  /-- The hub as a whole serves its waiting tasks like this. -/
  hub : room.hub.runWaiters =
    ((room.runAll room.hub.waiters).1.hub, (room.runAll room.hub.waiters).2)

theorem IsAttentive.releasesIff (h : room.IsAttentive) {crossed : Prop}
    (resolved : room.hub.store.state.isResolving = false ↔ crossed) :
    room.ReleasesIff crossed where
  early outside := by
    rw [← resolved, Bool.not_eq_false] at outside
    exact run_of_resolving outside
  ends _ _ ended := eq_of_run ended
  held _ waiting := isOpen_of_mem waiting
  polled _ waiting := h.run_eq_pollWaiter waiting
  released inside task waiting :=
    ⟨h.isRunnable_of_resolved waiting (resolved.2 inside),
      by rw [h.run_of_resolved waiting (resolved.2 inside)]⟩
  rested inside idle := by
    refine List.eq_nil_iff_forall_not_mem.2 fun task waiting => ?_
    have hrunnable := h.isRunnable_of_resolved waiting (resolved.2 inside)
    rw [idle task] at hrunnable
    cases hrunnable
  served inside tasks all := by
    have hnone := h.waiters_runAll (resolved.2 inside) all
    have hperm := h.runAll_perm tasks
    rw [hnone, List.append_nil] at hperm
    exact ⟨hnone, hperm⟩
  later inside handle there task fresh := by
    have hroom : room.act (.await handle task) = { room with hub := room.hub.await task } :=
      if_pos ⟨there, fresh⟩
    rw [hroom, (h.await fresh).run_of_resolved (List.mem_append_right _ List.mem_cons_self)
      (resolved.2 inside)]
    rfl
  hub := h.runWaiters_eq


-- ---------------------------------------------------------------------------
-- All that happens around a store
-- ---------------------------------------------------------------------------

/-- Something is done around a store, or it is written through a handle. -/
inductive StoreAction where
  | room (a : RoomAction)
  | write (handle : String) (w : StoreWrite)

/-- Do something, and note what was written. -/
def perform (room : WaitingRoom) : StoreAction → WaitingRoom × List StoreWrite
  | .room a => (room.act a, [])
  | .write handle w =>
    ({ room with hub := (room.hub.act (.write handle w)).1 }, (room.hub.act (.write handle w)).2)

/-- All that happens around a new store, with what was written. -/
def course (actions : List StoreAction) : WaitingRoom × List StoreWrite :=
  actions.foldl (fun (room, writes) a => ((room.perform a).1, writes ++ (room.perform a).2))
    ({}, [])

theorem course_snoc (actions : List StoreAction) (a : StoreAction) :
    course (actions ++ [a]) = (((course actions).1.perform a).1,
      (course actions).2 ++ ((course actions).1.perform a).2) :=
  List.foldl_append

theorem act_store (room : WaitingRoom) (a : RoomAction) :
    (room.act a).hub.store = room.hub.store := by
  cases a with
  | clone handle copy => exact room.hub.store_act (.clone handle copy)
  | release handle => rfl
  | await handle task => rw [act]; split <;> rfl
  | run task => exact room.run_store task

theorem IsAttentive.perform (h : room.IsAttentive) (a : StoreAction) :
    (room.perform a).1.IsAttentive := by
  cases a with
  | room a => exact h.act a
  | write handle w =>
    rw [WaitingRoom.perform, SessionHub.act]
    split
    · exact h.update ⟨_, room.hub.store.put_makes w⟩
    · exact h

theorem isAttentive_course (actions : List StoreAction) : (course actions).1.IsAttentive := by
  induction actions using List.reverseRecOn with
  | nil => exact .new
  | append_singleton actions a ih => rw [course_snoc]; exact ih.perform a

theorem store_course (actions : List StoreAction) :
    (course actions).1.hub.store = SessionStore.putAll {} (course actions).2 := by
  induction actions using List.reverseRecOn with
  | nil => rfl
  | append_singleton actions a ih =>
    rw [course_snoc]
    cases a with
    | room a => simpa [WaitingRoom.perform, act_store] using ih
    | write handle w =>
      refine (SessionHub.store_act _ _).trans ?_
      rw [ih]
      exact List.foldl_append.symm

/-- The boundary is the first write that begins a session, through whichever handle. -/
theorem releasesIff_course (actions : List StoreAction) :
    (course actions).1.ReleasesIff (boundariesIn (course actions).2 ≠ 0) := by
  refine (isAttentive_course actions).releasesIff ?_
  rw [store_course, Ne, ← SessionStore.isResolving_putAll, Bool.not_eq_true]

end WaitingRoom

end DashboardClient
