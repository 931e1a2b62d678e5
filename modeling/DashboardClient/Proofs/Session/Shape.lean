import DashboardClient.Guard
import DashboardClient.Session.Hub
import Mathlib.Data.List.Induction

/-!
# The shape of a session and the progress of its phase

A session kept as four fields of their own, one of which is also replaced alone, and a counter of
64 bits that may wrap around, has only the shapes that a session state has: as long as there were
fewer boundaries than the counter can tell apart, writing fields and writing states come to the
same, through whichever handle. The phase leaves `initializing` with the first boundary and never
returns to it, so route guards wait exactly that long, and then exactly one of them lets the
visitor in.
-/

namespace DashboardClient

-- ---------------------------------------------------------------------------
-- Fields
-- ---------------------------------------------------------------------------

/-- A session as four fields, any of which may have any value. -/
structure SessionFields where
  authenticated : Bool := false
  identity : Option String := none
  token : Option String := none
  resolving : Bool := false
  deriving DecidableEq, Repr

namespace SessionFields

def phase (f : SessionFields) : SessionPhase :=
  if f.resolving then .initializing else if f.authenticated then .authenticated else .anonymous

/-- Token and identity are there exactly when the session is authenticated, and none of the three
while it is being resolved. -/
structure HasShape (f : SessionFields) : Prop where
  token : f.authenticated = f.token.isSome
  identity : f.authenticated = f.identity.isSome
  resolving : f.resolving = true → f.authenticated = false ∧ f.token = none ∧ f.identity = none

end SessionFields

namespace SessionState

/-- What can be read of a session, field by field. -/
def fields (s : SessionState) : SessionFields :=
  { authenticated := s.isAuthenticated, identity := s.identity?, token := s.token?,
    resolving := s.isResolving }

theorem hasShape_fields (s : SessionState) : s.fields.HasShape := by
  cases s <;> constructor <;> simp [fields, isAuthenticated, identity?, token?, isResolving]

@[simp] theorem phase_fields (s : SessionState) : s.fields.phase = s.phase := by
  cases s <;> rfl

theorem phase_eq_initializing_iff (s : SessionState) :
    s.phase = .initializing ↔ s.isResolving = true := by
  cases s <;> simp [phase, isResolving]

end SessionState


-- ---------------------------------------------------------------------------
-- Writes
-- ---------------------------------------------------------------------------

/-- What is written into a store. A token comes with the epoch that it is meant for, which may be
any number. -/
inductive StoreWrite where
  | setAuthenticated (identity token : String)
  | resetAnonymous
  | replaceToken (epoch : UInt64) (token : String)
  deriving DecidableEq

/-- The write begins a session. -/
def StoreWrite.isBoundary : StoreWrite → Bool
  | .replaceToken _ _ => false
  | _ => true

/-- How many sessions began with the writes. -/
def boundariesIn (writes : List StoreWrite) : Nat :=
  writes.countP (·.isBoundary)

theorem boundariesIn_append (first rest : List StoreWrite) :
    boundariesIn (first ++ rest) = boundariesIn first + boundariesIn rest :=
  List.countP_append

namespace SessionStore

def put (s : SessionStore) : StoreWrite → SessionStore
  | .setAuthenticated identity token => s.setAuthenticated identity token
  | .resetAnonymous => s.resetAnonymous
  | .replaceToken epoch token => (s.replaceToken epoch.toNat token).2

/-- The store after the writes of a list. -/
def putAll (s : SessionStore) (writes : List StoreWrite) : SessionStore :=
  writes.foldl put s

theorem putAll_snoc (s : SessionStore) (writes : List StoreWrite) (w : StoreWrite) :
    s.putAll (writes ++ [w]) = (s.putAll writes).put w :=
  List.foldl_append

theorem epoch_put (s : SessionStore) (w : StoreWrite) :
    (s.put w).epoch = s.epoch + if w.isBoundary then 1 else 0 := by
  cases w with
  | replaceToken epoch token =>
    simp only [put, replaceToken, StoreWrite.isBoundary]
    split
    · split
      · split <;> rfl
      · rfl
    · rfl
  | _ => rfl

/-- A new token resolves nothing, and any other write does. -/
theorem isResolving_put (s : SessionStore) (w : StoreWrite) :
    (s.put w).state.isResolving = (s.state.isResolving && !w.isBoundary) := by
  cases w with
  | replaceToken epoch token =>
    simp only [put, replaceToken, StoreWrite.isBoundary, Bool.not_false, Bool.and_true]
    split
    · next hs =>
      rw [hs]
      split
      · split
        · rw [hs]
        · rfl
      · rw [hs]
    · rfl
  | _ => simp [put, setAuthenticated, resetAnonymous, begin, state, Watched.write,
      SessionState.isResolving, StoreWrite.isBoundary]

theorem epoch_putAll (writes : List StoreWrite) :
    (putAll {} writes).epoch = boundariesIn writes := by
  induction writes using List.reverseRecOn with
  | nil => rfl
  | append_singleton writes w ih =>
    rw [putAll_snoc, epoch_put, ih, boundariesIn_append]
    cases hw : w.isBoundary <;> simp [boundariesIn, hw]

theorem isResolving_putAll (writes : List StoreWrite) :
    (putAll {} writes).state.isResolving = true ↔ boundariesIn writes = 0 := by
  induction writes using List.reverseRecOn with
  | nil => exact iff_of_true rfl rfl
  | append_singleton writes w ih =>
    rw [putAll_snoc, isResolving_put, Bool.and_eq_true, ih, boundariesIn_append,
      Nat.add_eq_zero_iff]
    cases hw : w.isBoundary <;> simp [boundariesIn, hw]

end SessionStore


-- ---------------------------------------------------------------------------
-- Writing field by field
-- ---------------------------------------------------------------------------

/-- What all handles of a store share: the fields of the session, and the number of boundaries in
64 bits. -/
structure SessionCell where
  fields : SessionFields := { resolving := true }
  epoch : UInt64 := 0

namespace SessionCell

/-- Write all fields at once, as a new session. -/
def begin (c : SessionCell) (fields : SessionFields) : SessionCell :=
  { fields, epoch := c.epoch + 1 }

/-- Write the token alone, unless there is no session to write it into or it is meant for
another one. -/
def replaceToken (c : SessionCell) (epoch : UInt64) (token : String) : SessionCell :=
  if !c.fields.authenticated || c.epoch != epoch then c
  else if c.fields.token = some token then c
  else { c with fields := { c.fields with token := some token } }

def put (c : SessionCell) : StoreWrite → SessionCell
  | .setAuthenticated identity token =>
    c.begin { authenticated := true, identity := some identity, token := some token }
  | .resetAnonymous => c.begin {}
  | .replaceToken epoch token => c.replaceToken epoch token

/-- The cell after the writes of a list. -/
def putAll (c : SessionCell) (writes : List StoreWrite) : SessionCell :=
  writes.foldl put c

theorem putAll_snoc (c : SessionCell) (writes : List StoreWrite) (w : StoreWrite) :
    c.putAll (writes ++ [w]) = (c.putAll writes).put w :=
  List.foldl_append

/-- The cell holds the fields of the store's session, and its epoch as far as 64 bits go. -/
structure Represents (c : SessionCell) (s : SessionStore) : Prop where
  fields : c.fields = s.state.fields
  epoch : c.epoch = UInt64.ofNat s.epoch

theorem Represents.epoch_eq_iff {c : SessionCell} {s : SessionStore} (h : c.Represents s)
    (few : s.epoch < UInt64.size) (epoch : UInt64) : c.epoch = epoch ↔ s.epoch = epoch.toNat := by
  rw [h.epoch, ← UInt64.toNat_inj, UInt64.toNat_ofNat_of_lt' few]

theorem Represents.begin {c : SessionCell} {s : SessionStore} (h : c.Represents s)
    (next : SessionState) : (c.begin next.fields).Represents (s.begin next) where
  fields := rfl
  epoch := by
    show c.epoch + 1 = UInt64.ofNat (s.epoch + 1)
    rw [h.epoch, UInt64.ofNat_add]
    rfl

theorem Represents.replaceToken {c : SessionCell} {s : SessionStore} (h : c.Represents s)
    (few : s.epoch < UInt64.size) (epoch : UInt64) (token : String) :
    (c.replaceToken epoch token).Represents (s.replaceToken epoch.toNat token).2 := by
  have hepoch := h.epoch_eq_iff few epoch
  cases hs : s.state with
  | authenticated identity current =>
    have hfields : c.fields =
        { authenticated := true, identity := some identity, token := some current } := by
      rw [h.fields, hs]
      rfl
    by_cases hnow : s.epoch = epoch.toNat
    · by_cases hsame : current = token
      · simpa [SessionCell.replaceToken, SessionStore.replaceToken, hs, hfields, hepoch, hnow,
          hsame] using h
      · simp only [SessionCell.replaceToken, SessionStore.replaceToken, hs, hfields,
          hepoch.2 hnow, hnow, hsame, Option.some.injEq, Bool.not_true, bne_self_eq_false,
          Bool.or_self, Bool.false_eq_true, if_true, if_false]
        exact ⟨rfl, UInt64.ofNat_toNat.symm⟩
    · have hpast : c.epoch ≠ epoch := fun he => hnow (hepoch.1 he)
      simpa [SessionCell.replaceToken, SessionStore.replaceToken, hs, hnow, hpast] using h
  | _ =>
    have hnobody : c.fields.authenticated = false := by
      rw [h.fields, hs]
      rfl
    simpa [SessionCell.replaceToken, SessionStore.replaceToken, hs, hnobody] using h

theorem Represents.put {c : SessionCell} {s : SessionStore} (h : c.Represents s)
    (few : s.epoch < UInt64.size) (w : StoreWrite) : (c.put w).Represents (s.put w) := by
  cases w with
  | setAuthenticated identity token => exact h.begin (.authenticated identity token)
  | resetAnonymous => exact h.begin .anonymous
  | replaceToken epoch token => exact h.replaceToken few epoch token

/-- Writing fields and writing states come to the same. -/
theorem represents_putAll {writes : List StoreWrite} (few : boundariesIn writes < UInt64.size) :
    (putAll {} writes).Represents (SessionStore.putAll {} writes) := by
  induction writes using List.reverseRecOn with
  | nil => exact ⟨rfl, rfl⟩
  | append_singleton writes w ih =>
    rw [boundariesIn_append] at few
    have hfew : boundariesIn writes < UInt64.size := Nat.lt_of_le_of_lt (Nat.le_add_right _ _) few
    rw [putAll_snoc, SessionStore.putAll_snoc]
    exact (ih hfew).put (by rwa [SessionStore.epoch_putAll]) w

end SessionCell


-- ---------------------------------------------------------------------------
-- Handles
-- ---------------------------------------------------------------------------

/-- What is done with the handles of a store: one is copied, let go of or written through. -/
inductive HandleAction where
  | clone (handle copy : String)
  | release (handle : String)
  | write (handle : String) (w : StoreWrite)

namespace SessionHub

/-- Do something with a handle, which must be there, and note what was written. -/
def act (hub : SessionHub) : HandleAction → SessionHub × List StoreWrite
  | .clone handle copy => (if handle ∈ hub.handles then hub.clone copy else hub, [])
  | .release handle => (hub.release handle, [])
  | .write handle w =>
    if handle ∈ hub.handles then (hub.update (·.put w), [w]) else (hub, [])

/-- All that happens to a new store and its handles, with what was written. -/
def life (actions : List HandleAction) : SessionHub × List StoreWrite :=
  actions.foldl (fun (hub, writes) a => ((hub.act a).1, writes ++ (hub.act a).2)) ({}, [])

theorem life_snoc (actions : List HandleAction) (a : HandleAction) :
    life (actions ++ [a]) =
      (((life actions).1.act a).1, (life actions).2 ++ ((life actions).1.act a).2) :=
  List.foldl_append

theorem store_act (hub : SessionHub) (a : HandleAction) :
    (hub.act a).1.store = hub.store.putAll (hub.act a).2 := by
  cases a with
  | clone handle copy =>
    simp only [act]
    split <;> rfl
  | release handle => rfl
  | write handle w =>
    simp only [act]
    split <;> rfl

/-- All handles share one store. -/
theorem store_life (actions : List HandleAction) :
    (life actions).1.store = SessionStore.putAll {} (life actions).2 := by
  induction actions using List.reverseRecOn with
  | nil => rfl
  | append_singleton actions a ih =>
    rw [life_snoc, store_act, ih]
    exact List.foldl_append.symm

theorem boundaries_life_le (actions later : List HandleAction) :
    boundariesIn (life actions).2 ≤ boundariesIn (life (actions ++ later)).2 := by
  induction later using List.reverseRecOn with
  | nil => simp
  | append_singleton later a ih =>
    rw [← List.append_assoc, life_snoc, boundariesIn_append]
    exact Nat.le_trans ih (Nat.le_add_right _ _)

end SessionHub


-- ---------------------------------------------------------------------------
-- Guards
-- ---------------------------------------------------------------------------

namespace RouteGuard

variable (guard : RouteGuard) (state : SessionState)

theorem forProtected_eq_placeholder_iff :
    guard.forProtected state = .placeholder ↔ state.isResolving = true := by
  cases state <;> simp [forProtected, SessionState.phase, SessionState.isResolving]

theorem forPublic_eq_placeholder_iff :
    guard.forPublic state = .placeholder ↔ state.isResolving = true := by
  cases state <;> simp [forPublic, SessionState.phase, SessionState.isResolving]

/-- Of a resolved session one guard lets the visitor in, and the other one sends it away for
good. -/
theorem cases_of_resolved (resolved : state.isResolving = false) :
    (state.phase = .authenticated ∧ guard.forProtected state = .render ∧
      guard.forPublic state = .redirect guard.homePath true) ∨
    (state.phase = .anonymous ∧ guard.forProtected state = .redirect guard.loginPath true ∧
      guard.forPublic state = .render) := by
  cases state with
  | initializing => cases resolved
  | anonymous => exact Or.inr ⟨rfl, rfl, rfl⟩
  | authenticated identity token => exact Or.inl ⟨rfl, rfl, rfl⟩

theorem shouldRedirect_iff :
    shouldRedirectUnauthenticated state = true ↔
      ∃ target replace, guard.forProtected state = .redirect target replace := by
  cases state <;> simp [shouldRedirectUnauthenticated, forProtected, SessionState.phase]

end RouteGuard


-- ---------------------------------------------------------------------------
-- Shape and progress
-- ---------------------------------------------------------------------------

/-- Whatever is written through whichever handles, with fewer boundaries than 64 bits can count:
the session kept field by field is the one of the store, with its number of boundaries, and it has
its shape. It is being resolved exactly until the first boundary. So long both guards show a
placeholder, and never again; afterwards one renders and the other one redirects, to the login of
an anonymous visitor and to the home of an authenticated one. -/
theorem session_shape_and_progress (guard : RouteGuard) (actions : List HandleAction)
    (few : boundariesIn (SessionHub.life actions).2 < UInt64.size) :
    let store := (SessionHub.life actions).1.store
    let state := store.state
    let boundaries := boundariesIn (SessionHub.life actions).2
    let cell := SessionCell.putAll {} (SessionHub.life actions).2
    (cell.fields = state.fields ∧ cell.fields.phase = state.phase ∧
      cell.epoch.toNat = store.epoch) ∧
    cell.fields.HasShape ∧
    store.epoch = boundaries ∧
    (state.isResolving = true ↔ boundaries = 0) ∧
    (guard.forProtected state = .placeholder ↔ boundaries = 0) ∧
    (guard.forPublic state = .placeholder ↔ boundaries = 0) ∧
    (boundaries ≠ 0 →
      ((state.phase = .authenticated ∧ guard.forProtected state = .render ∧
          guard.forPublic state = .redirect guard.homePath true) ∨
        (state.phase = .anonymous ∧ guard.forProtected state = .redirect guard.loginPath true ∧
          guard.forPublic state = .render)) ∧
      ∀ later,
        let next := (SessionHub.life (actions ++ later)).1.store.state
        next.phase ≠ .initializing ∧ guard.forProtected next ≠ .placeholder ∧
          guard.forPublic next ≠ .placeholder) ∧
    (shouldRedirectUnauthenticated state = true ↔
      ∃ target replace, guard.forProtected state = .redirect target replace) := by
  intro store state boundaries cell
  have hrepresents : cell.Represents store := by
    have := SessionCell.represents_putAll few
    rwa [← SessionHub.store_life] at this
  have hepoch : store.epoch = boundaries := by
    simp only [store, SessionHub.store_life, SessionStore.epoch_putAll, boundaries]
  have hresolving (actions : List HandleAction) :
      (SessionHub.life actions).1.store.state.isResolving = true ↔
        boundariesIn (SessionHub.life actions).2 = 0 := by
    rw [SessionHub.store_life]
    exact SessionStore.isResolving_putAll _
  refine ⟨⟨hrepresents.fields, ?_, ?_⟩, ?_, hepoch, hresolving actions, ?_, ?_, ?_,
    guard.shouldRedirect_iff state⟩
  · rw [hrepresents.fields, SessionState.phase_fields]
  · rw [hrepresents.epoch, UInt64.toNat_ofNat_of_lt' (hepoch ▸ few)]
  · rw [hrepresents.fields]
    exact state.hasShape_fields
  · exact (guard.forProtected_eq_placeholder_iff state).trans (hresolving actions)
  · exact (guard.forPublic_eq_placeholder_iff state).trans (hresolving actions)
  · intro begun
    have hresolved : state.isResolving = false :=
      Bool.eq_false_iff.2 fun h => begun ((hresolving actions).1 h)
    refine ⟨guard.cases_of_resolved state hresolved, ?_⟩
    intro later next
    have hlater : ¬next.isResolving = true := by
      intro h
      have hnone := (hresolving (actions ++ later)).1 h
      have hmono := SessionHub.boundaries_life_le actions later
      omega
    refine ⟨?_, ?_, ?_⟩
    · rwa [Ne, SessionState.phase_eq_initializing_iff]
    · rwa [Ne, guard.forProtected_eq_placeholder_iff]
    · rwa [Ne, guard.forPublic_eq_placeholder_iff]

/-- A login through a copy, after which the first handle is gone; of two new tokens one is meant
for another session. -/
theorem session_shape_through_copy :
    let guard : RouteGuard := { loginPath := "/in", homePath := "/start" }
    let actions : List HandleAction :=
      [.clone "main" "copy", .write "copy" (.setAuthenticated "ada" "old"), .release "main",
       .write "main" .resetAnonymous, .write "copy" (.replaceToken 1 "new"),
       .write "copy" (.replaceToken 7 "forged")]
    let cell := SessionCell.putAll {} (SessionHub.life actions).2
    let state := (SessionHub.life actions).1.store.state
    let later := (SessionHub.life (actions ++ [.write "copy" .resetAnonymous])).1.store.state
    boundariesIn (SessionHub.life actions).2 < UInt64.size ∧
      (cell.fields =
          { authenticated := true, identity := some "ada", token := some "new", resolving := false } ∧
        cell.epoch.toNat = 1) ∧
      guard.forPublic state = .redirect "/start" true ∧
      later.phase ≠ .initializing := by
  intro guard actions cell state later
  have few : boundariesIn (SessionHub.life actions).2 < UInt64.size := by decide +kernel
  obtain ⟨⟨hfields, _, hepoch⟩, _, _, _, _, _, hbegun, _⟩ :=
    session_shape_and_progress guard actions few
  obtain ⟨hguards, hlater⟩ := hbegun (by decide +kernel)
  refine ⟨few, ⟨?_, ?_⟩, ?_, (hlater _).1⟩
  · rw [hfields]
    decide +kernel
  · rw [hepoch]
    decide +kernel
  · rcases hguards with ⟨_, _, hpublic⟩ | ⟨hphase, _⟩
    · exact hpublic
    · exact absurd hphase (by decide +kernel)

end DashboardClient
