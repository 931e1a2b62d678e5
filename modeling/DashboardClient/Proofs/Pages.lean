import DashboardClient.Pages
import Mathlib.Data.List.Chain
import Mathlib.Tactic.SplitIfs

/-!
# What a pager shows

Pages in ascending order become markers that leave nothing out: a page stands for itself and an
ellipsis for the pages between its neighbours, of which there is at least one. The shown pages
are in ascending order at both ends of the numbers that 32 bits hold, so no sum on the way is
too large for them and no page is shown twice.
-/

namespace DashboardClient

namespace PageMarker

variable {before p q total : UInt32} {ps : List UInt32} {ms : List PageMarker}

-- ---------------------------------------------------------------------------
-- Reading markers
-- ---------------------------------------------------------------------------

/-- The number on a marker. -/
def number? : PageMarker → Option UInt32
  | page p => some p
  | ellipsis => none

/-- The numbers on the markers, in their order. -/
def numbers (ms : List PageMarker) : List UInt32 :=
  ms.filterMap number?

@[simp] theorem numbers_nil : numbers [] = [] := rfl

@[simp] theorem numbers_page (p : UInt32) (ms : List PageMarker) :
    numbers (page p :: ms) = p :: numbers ms := rfl

@[simp] theorem numbers_ellipsis (ms : List PageMarker) :
    numbers (ellipsis :: ms) = numbers ms := rfl

theorem length_eq (ms : List PageMarker) :
    ms.length = (numbers ms).length + ms.count ellipsis := by
  induction ms with
  | nil => rfl
  | cons m ms ih =>
    cases m with
    | page p => simp [ih]; omega
    | ellipsis => simp [ih]; omega

/-- The numbers strictly between two pages. -/
def between (before after : Nat) : List Nat :=
  List.range' (before + 1) (after - (before + 1))

/-- The numbers that markers stand for which come after `before`: a page stands for itself, an
ellipsis for those strictly between its neighbours. -/
def filled (before : Nat) : List PageMarker → List Nat
  | [] => []
  | page p :: rest => p.toNat :: filled p.toNat rest
  | ellipsis :: page p :: rest => between before p.toNat ++ p.toNat :: filled p.toNat rest
  | ellipsis :: rest => filled before rest

/-- The markers after `before` go up from it, with an ellipsis exactly where pages are hidden. -/
inductive GoesOn : UInt32 → List PageMarker → Prop where
  | done {before : UInt32} : GoesOn before []
  | follow {before p : UInt32} {ms : List PageMarker} (next : p.toNat = before.toNat + 1)
    (rest : GoesOn p ms) : GoesOn before (page p :: ms)
  | skip {before p : UInt32} {ms : List PageMarker} (hidden : before.toNat + 1 < p.toNat)
    (rest : GoesOn p ms) : GoesOn before (ellipsis :: page p :: ms)

/-- How many of the pages after `before` do not follow the one in front of them. -/
def gapsAfter (before : UInt32) : List UInt32 → Nat
  | [] => 0
  | p :: rest => (if before.toNat + 1 < p.toNat then 1 else 0) + gapsAfter p rest

namespace GoesOn

theorem ascending (h : GoesOn before ms) : (before :: numbers ms).IsChain (· < ·) := by
  induction h with
  | done => exact List.isChain_singleton _
  | follow next _ ih =>
    exact List.isChain_cons_cons.2 ⟨UInt32.lt_iff_toNat_lt.2 (by omega), ih⟩
  | skip hidden _ ih =>
    exact List.isChain_cons_cons.2 ⟨UInt32.lt_iff_toNat_lt.2 (by omega), ih⟩

theorem count_ellipsis (h : GoesOn before ms) :
    ms.count ellipsis = gapsAfter before (numbers ms) := by
  induction h with
  | done => rfl
  | @follow before p ms next _ ih =>
    have hnext : ¬before.toNat + 1 < p.toNat := by omega
    simp [gapsAfter, hnext, ih]
  | skip hidden _ ih =>
    rw [numbers_ellipsis, numbers_page, gapsAfter, if_pos hidden, ← ih]
    simp [Nat.add_comm]

theorem no_two_ellipses (h : GoesOn before ms) :
    (page before :: ms).IsChain (fun a b => a ≠ ellipsis ∨ b ≠ ellipsis) := by
  induction h with
  | done => exact List.isChain_singleton _
  | follow _ _ ih => exact List.isChain_cons_cons.2 ⟨by simp, ih⟩
  | skip _ _ ih =>
    refine List.isChain_cons_cons.2 ⟨by simp, ?_⟩
    exact List.isChain_cons_cons.2 ⟨by simp, ih⟩

/-- The last marker is the last page. -/
theorem getLast?_eq (h : GoesOn before ms) :
    (page before :: ms).getLast? = (before :: numbers ms).getLast?.map page := by
  induction h with
  | done => rfl
  | follow _ _ ih => simpa only [numbers_page, List.getLast?_cons_cons] using ih
  | skip _ _ ih =>
    simpa only [numbers_ellipsis, numbers_page, List.getLast?_cons_cons] using ih

/-- What comes after one of the pages goes on from it. -/
theorem of_split (h : GoesOn before ms) {front rest : List PageMarker}
    (split : page before :: ms = front ++ page p :: rest) : GoesOn p rest := by
  induction h generalizing front with
  | done =>
    cases front with
    | nil =>
      cases split
      exact .done
    | cons m front => simp at split
  | follow next tail ih =>
    cases front with
    | nil =>
      cases split
      exact .follow next tail
    | cons m front => exact ih (List.cons.inj split).2
  | skip hidden tail ih =>
    cases front with
    | nil =>
      cases split
      exact .skip hidden tail
    | cons m front =>
      cases front with
      | nil => cases (List.cons.inj split).2
      | cons m front => exact ih (List.cons.inj (List.cons.inj split).2).2

/-- Up to the next page stands an ellipsis exactly when pages are left out. -/
theorem gap_eq {gap back : List PageMarker} (h : GoesOn p (gap ++ page q :: back))
    (bare : ∀ m ∈ gap, m = ellipsis) :
    gap = if p.toNat + 1 < q.toNat then [ellipsis] else [] := by
  match gap, h with
  | [], .follow next _ => rw [if_neg (by omega)]
  | [ellipsis], .skip hidden _ => rw [if_pos hidden]
  | page _ :: _, _ => cases bare _ List.mem_cons_self
  | ellipsis :: page _ :: _, _ => cases bare _ (List.mem_cons_of_mem _ List.mem_cons_self)

/-- The last page is not below the one that the markers go on from. -/
theorem le_last (h : GoesOn before ms) {last : UInt32}
    (ends : (before :: numbers ms).getLast? = some last) : before.toNat ≤ last.toNat := by
  induction h with
  | done =>
    obtain rfl := Option.some.inj ends
    exact Nat.le_refl _
  | follow next _ ih =>
    have := ih (by simpa only [numbers_page, List.getLast?_cons_cons] using ends)
    omega
  | skip hidden _ ih =>
    have := ih (by
      simpa only [numbers_ellipsis, numbers_page, List.getLast?_cons_cons] using ends)
    omega

/-- The markers stand for all numbers after `before`, up to the last page. -/
theorem filled_eq (h : GoesOn before ms) {last : UInt32}
    (ends : (before :: numbers ms).getLast? = some last) :
    filled before.toNat ms = List.range' (before.toNat + 1) (last.toNat - before.toNat) := by
  induction h with
  | done =>
    obtain rfl := Option.some.inj ends
    simp [filled]
  | @follow before p ms next rest ih =>
    replace ends : (p :: numbers ms).getLast? = some last := by
      simpa only [numbers_page, List.getLast?_cons_cons] using ends
    have hle := rest.le_last ends
    have hone : last.toNat - before.toNat = last.toNat - p.toNat + 1 := by omega
    rw [filled, ih ends, hone, List.range'_succ, next]
  | @skip before p ms hidden rest ih =>
    replace ends : (p :: numbers ms).getLast? = some last := by
      simpa only [numbers_ellipsis, numbers_page, List.getLast?_cons_cons] using ends
    have hle := rest.le_last ends
    have hp : before.toNat + 1 + (p.toNat - (before.toNat + 1)) = p.toNat := by omega
    have hsum : last.toNat - before.toNat =
        p.toNat - (before.toNat + 1) + (last.toNat - p.toNat + 1) := by omega
    rw [filled, ih ends, between, hsum, ← List.range'_append_1, hp, List.range'_succ]

end GoesOn


-- ---------------------------------------------------------------------------
-- Making markers
-- ---------------------------------------------------------------------------

theorem lt_add_one_of_lt (h : p < q) : p < p + 1 := by
  grind

theorem next?_of_lt (h : p < q) : next? p = some (p + 1) :=
  if_pos (lt_add_one_of_lt h)

theorem toNat_add_one_of_lt (h : p < q) : (p + 1).toNat = p.toNat + 1 := by
  have hq := q.toNat_lt
  rw [UInt32.lt_iff_toNat_lt] at h
  rw [UInt32.toNat_add, UInt32.toNat_one]
  omega

/-- Of ascending pages no number is too large, because another page comes after it. -/
theorem markersAfter?_of_isChain (ascending : (before :: ps).IsChain (· < ·)) :
    ∃ ms, markersAfter? before ps = some ms ∧ GoesOn before ms ∧ numbers ms = ps := by
  induction ps generalizing before with
  | nil => exact ⟨[], rfl, .done, rfl⟩
  | cons p ps ih =>
    obtain ⟨hlt, hrest⟩ := List.isChain_cons_cons.1 ascending
    obtain ⟨ms, hms, hgoes, hnumbers⟩ := ih hrest
    have hsucc := toNat_add_one_of_lt hlt
    have hup := UInt32.lt_iff_toNat_lt.1 hlt
    by_cases hgap : p > before + 1
    · have hhidden : before.toNat + 1 < p.toNat := hsucc ▸ UInt32.lt_iff_toNat_lt.1 hgap
      refine ⟨ellipsis :: page p :: ms, ?_, .skip hhidden hgoes, by simp [hnumbers]⟩
      simp [markersAfter?, next?_of_lt hlt, hms, hgap]
    · have hnext : p.toNat = before.toNat + 1 := by
        have := hsucc ▸ mt UInt32.lt_iff_toNat_lt.2 hgap
        omega
      refine ⟨page p :: ms, ?_, .follow hnext hgoes, by simp [hnumbers]⟩
      simp [markersAfter?, next?_of_lt hlt, hms, hgap]

/-- Where no two neighbours are equal, there is nothing to erase. -/
theorem eraseReps_of_isChain (distinct : ps.IsChain (· ≠ ·)) : ps.eraseReps = ps := by
  have hloop (a : UInt32) (as acc : List UInt32) (h : (a :: as).IsChain (· ≠ ·)) :
      List.eraseRepsBy.loop (· == ·) a as acc = acc.reverse ++ a :: as := by
    induction as generalizing a acc with
    | nil => simp [List.eraseRepsBy.loop]
    | cons b as ih =>
      obtain ⟨hne, hrest⟩ := List.isChain_cons_cons.1 h
      simp [List.eraseRepsBy.loop, beq_eq_false_iff_ne.2 hne, ih b (a :: acc) hrest]
  cases ps with
  | nil => rfl
  | cons a as => exact hloop a as [] distinct


-- ---------------------------------------------------------------------------
-- The shown pages
-- ---------------------------------------------------------------------------

section Shown

variable (current : UInt32)

theorem toNat_clampPage (some_page : 1 ≤ total.toNat) :
    (clampPage current total).toNat = max 1 (min current.toNat total.toNat) := by
  simp only [clampPage, UInt32.lt_iff_toNat_lt, UInt32.toNat_one]
  split
  · simp only [UInt32.toNat_one]
    omega
  · split <;> omega

theorem toNat_prevPage (p : UInt32) : (prevPage p).toNat = p.toNat - 1 := by
  unfold prevPage
  split
  · next h => simp [h]
  · next h =>
    have hp : 1 ≤ p.toNat := Nat.pos_of_ne_zero fun h0 => h (UInt32.toNat_inj.1 h0)
    exact UInt32.toNat_sub_of_le _ _ (UInt32.le_iff_toNat_le.2 hp)

/-- The page after a page below another one. -/
theorem toNat_nextPage_of_lt (h : p < q) : (nextPage p).toNat = p.toNat + 1 := by
  rw [nextPage, next?_of_lt h]
  exact toNat_add_one_of_lt h

theorem toNat_nextPage_le (p : UInt32) : (nextPage p).toNat ≤ p.toNat + 1 := by
  unfold nextPage next?
  split
  · next h => exact Nat.le_of_eq (toNat_add_one_of_lt h)
  · exact Nat.le_succ _

theorem le_nextPage (p : UInt32) : p.toNat ≤ (nextPage p).toNat := by
  unfold nextPage next?
  split
  · next h => exact Nat.le_of_lt (UInt32.lt_iff_toNat_lt.1 h)
  · exact Nat.le_refl _

/-- The current page, brought between the first page and the last one. -/
def nearest (current total : UInt32) : Nat :=
  max 1 (min current.toNat total.toNat)

theorem mem_innerPages (some_page : 1 ≤ total.toNat) :
    p ∈ innerPages current total ↔
      (2 ≤ p.toNat ∧ p.toNat ≤ total.toNat - 1) ∧
        (p.toNat + 1 = nearest current total ∨ p.toNat = nearest current total ∨
          p.toNat = nearest current total + 1) := by
  have hc := toNat_clampPage current some_page
  rw [← nearest] at hc
  have hone : 1 ≤ nearest current total := Nat.le_max_left _ _
  have hlast : nearest current total ≤ total.toNat := by
    unfold nearest
    omega
  have hprev := toNat_prevPage (clampPage current total)
  have hnext : clampPage current total < total →
      (nextPage (clampPage current total)).toNat = nearest current total + 1 :=
    fun h => hc ▸ toNat_nextPage_of_lt h
  have hself := le_nextPage (clampPage current total)
  simp only [innerPages, List.mem_filter, List.mem_cons, List.not_mem_nil, or_false,
    Bool.and_eq_true, decide_eq_true_eq, UInt32.le_iff_toNat_le, UInt32.lt_iff_toNat_lt,
    ← UInt32.toNat_inj, hc, hprev] at hnext hself ⊢
  have htwo : (2 : UInt32).toNat = 2 := rfl
  rw [htwo]
  omega

theorem one_le_clampPage (some_page : 1 ≤ total.toNat) :
    1 ≤ (clampPage current total).toNat := by
  rw [toNat_clampPage current some_page]
  exact Nat.le_max_left _ _

/-- The current page and its neighbours go up. -/
theorem pairwise_innerPages (some_page : 1 ≤ total.toNat) :
    (innerPages current total).Pairwise (· < ·) := by
  have hone := one_le_clampPage current some_page
  have hprev := toNat_prevPage (clampPage current total)
  have hnext := fun h => toNat_nextPage_of_lt (p := clampPage current total) (q := total) h
  have hself := le_nextPage (clampPage current total)
  simp only [UInt32.lt_iff_toNat_lt] at hnext
  simp only [innerPages, List.pairwise_filter, List.pairwise_cons, List.mem_cons,
    List.not_mem_nil, or_false, forall_eq_or_imp, forall_eq, Bool.and_eq_true,
    decide_eq_true_eq, UInt32.le_iff_toNat_le, UInt32.lt_iff_toNat_lt, hprev,
    false_imp_iff, implies_true, List.Pairwise.nil, and_true]
  omega

/-- The shown pages go up from the first one to the last one. -/
theorem isChain_shown (many : 7 < total.toNat) :
    (1 :: (innerPages current total ++ [total])).IsChain (· < ·) := by
  have hinner {p : UInt32} (hp : p ∈ innerPages current total) : 1 < p ∧ p < total := by
    have hmem := (mem_innerPages current (by omega)).1 hp
    simp only [UInt32.lt_iff_toNat_lt, UInt32.toNat_one]
    omega
  have hends : 1 < total := by
    rw [UInt32.lt_iff_toNat_lt, UInt32.toNat_one]
    omega
  refine List.Pairwise.isChain (List.pairwise_cons.2 ⟨?_, ?_⟩)
  · intro p hp
    rcases List.mem_append.1 hp with hp | hp
    · exact (hinner hp).1
    · rwa [List.mem_singleton.1 hp]
  · refine List.pairwise_append.2
      ⟨pairwise_innerPages current (by omega), List.pairwise_singleton _ _, ?_⟩
    intro p hp q hq
    rw [List.mem_singleton.1 hq]
    exact (hinner hp).2

/-- The pages around the current one leave none out between them. -/
theorem isChain_innerPages (some_page : 1 ≤ total.toNat) :
    (innerPages current total).IsChain (fun p q => q.toNat ≤ p.toNat + 1) := by
  have hone := one_le_clampPage current some_page
  have hprev := toNat_prevPage (clampPage current total)
  have hnext := toNat_nextPage_le (clampPage current total)
  have hself := le_nextPage (clampPage current total)
  simp only [innerPages, List.filter_cons, List.filter_nil, Bool.and_eq_true,
    decide_eq_true_eq, UInt32.le_iff_toNat_le, UInt32.lt_iff_toNat_lt, hprev]
  -- When both neighbours are shown, so is the page between them.
  split_ifs <;> simp only [List.isChain_cons_cons, List.isChain_singleton, List.isChain_nil,
    hprev, and_true] <;> omega

theorem gapsAfter_of_isChain (near : (before :: ps).IsChain (fun p q => q.toNat ≤ p.toNat + 1)) :
    gapsAfter before ps = 0 := by
  induction ps generalizing before with
  | nil => rfl
  | cons p ps ih =>
    obtain ⟨hstep, hrest⟩ := List.isChain_cons_cons.1 near
    rw [gapsAfter, if_neg (by omega), ih hrest]

theorem gapsAfter_le_one (near : ps.IsChain (fun p q => q.toNat ≤ p.toNat + 1)) :
    gapsAfter before ps ≤ 1 := by
  cases ps with
  | nil => exact Nat.zero_le _
  | cons p ps =>
    rw [gapsAfter, gapsAfter_of_isChain near]
    split
    · exact Nat.le_refl _
    · exact Nat.zero_le _

theorem gapsAfter_concat_le (ps : List UInt32) (last : UInt32) :
    gapsAfter before (ps ++ [last]) ≤ gapsAfter before ps + 1 := by
  induction ps generalizing before with
  | nil =>
    simp only [List.nil_append, gapsAfter]
    split <;> omega
  | cons p ps ih =>
    have hrest := @ih p
    simp only [List.cons_append, gapsAfter]
    omega

/-- The markers of more than seven pages. -/
theorem exists_pageMarkers (many : 7 < total.toNat) :
    ∃ ms, pageMarkers? current total = some (page 1 :: ms) ∧ GoesOn 1 ms ∧
      numbers ms = innerPages current total ++ [total] := by
  have hchain := isChain_shown current many
  obtain ⟨ms, hms, hgoes, hnumbers⟩ := markersAfter?_of_isChain hchain
  have hlong : ¬total ≤ fullListMax := by
    rw [UInt32.le_iff_toNat_le]
    exact Nat.not_le_of_lt many
  have hshown : shownPages current total = 1 :: (innerPages current total ++ [total]) :=
    eraseReps_of_isChain (hchain.imp fun _ _ h => UInt32.ne_of_lt h)
  refine ⟨ms, ?_, hgoes, hnumbers⟩
  rw [pageMarkers?, if_neg hlong, hshown, markers?, hms, Option.map_some]

theorem pageMarkers?_of_few (few : total.toNat ≤ 7) :
    pageMarkers? current total = some ((allPages total).map page) :=
  if_pos (UInt32.le_iff_toNat_le.2 few)

/-- No number on the way has more than 32 bits. -/
theorem pageMarkers?_eq (total : UInt32) :
    pageMarkers? current total = some (pageMarkers current total) := by
  by_cases hmany : 7 < total.toNat
  · obtain ⟨ms, hms, -⟩ := exists_pageMarkers current hmany
    rw [pageMarkers, hms, Option.getD_some]
  · rw [pageMarkers, pageMarkers?_of_few current (Nat.le_of_not_lt hmany), Option.getD_some]

end Shown

end PageMarker

open PageMarker

/-- Every sum of page numbers fits into 32 bits, so there are markers for every page and every
total. Up to seven pages are listed one by one. Beyond that the markers go up from the first page
to the last one and show, apart from these two, the current page and its neighbours; a current
page that does not exist counts as the nearest one. Between two pages stands one ellipsis if they
leave pages out and none otherwise, so the markers stand for every page exactly once. -/
theorem pager_leaves_nothing_out (current total : UInt32) :
    pageMarkers? current total = some (pageMarkers current total) ∧
    let markers := pageMarkers current total
    let c := nearest current total
    (total.toNat ≤ 7 →
      markers = (List.range' 1 total.toNat).map fun n => .page (UInt32.ofNat n)) ∧
    (7 < total.toNat →
      (numbers markers).Pairwise (· < ·) ∧
      (∀ p, p ∈ numbers markers ↔ p = 1 ∨ p = total ∨
        (2 ≤ p.toNat ∧ p.toNat ≤ total.toNat - 1) ∧
          (p.toNat + 1 = c ∨ p.toNat = c ∨ p.toNat = c + 1)) ∧
      (∀ front p gap q back, markers = front ++ .page p :: (gap ++ .page q :: back) →
        (∀ m ∈ gap, m = .ellipsis) →
        gap = if p.toNat + 1 < q.toNat then [.ellipsis] else []) ∧
      (markers.head? = some (.page 1) ∧ markers.getLast? = some (.page total)) ∧
      markers.count .ellipsis ≤ 2 ∧
      markers.IsChain (fun a b => a ≠ .ellipsis ∨ b ≠ .ellipsis) ∧
      markers.length ≤ 7 ∧
      filled 0 markers = List.range' 1 total.toNat) := by
  refine ⟨pageMarkers?_eq current total, ?_⟩
  intro markers c
  by_cases hmany : 7 < total.toNat
  · obtain ⟨ms, hms, hgoes, hnumbers⟩ := exists_pageMarkers current hmany
    have hmarkers : markers = page 1 :: ms := by
      simp only [markers, pageMarkers, hms, Option.getD_some]
    have hlast : (1 :: numbers ms).getLast? = some total := by
      rw [hnumbers, ← List.cons_append, List.getLast?_concat]
    have hgaps : ms.count ellipsis ≤ 2 := by
      rw [hgoes.count_ellipsis, hnumbers]
      have hinner : gapsAfter 1 (innerPages current total) ≤ 1 :=
        gapsAfter_le_one (isChain_innerPages current (by omega))
      exact Nat.le_trans (gapsAfter_concat_le _ _) (Nat.succ_le_succ hinner)
    have hcount : markers.count ellipsis ≤ 2 := by
      rw [hmarkers]
      simpa using hgaps
    refine ⟨fun h => absurd h (Nat.not_le_of_lt hmany), fun _ => ?_⟩
    refine ⟨?_, ?_, ?_, ⟨?_, ?_⟩, hcount, ?_, ?_, ?_⟩
    · rw [hmarkers]
      exact hgoes.ascending.pairwise
    · intro p
      rw [hmarkers, numbers_page, hnumbers, List.mem_cons, List.mem_append, List.mem_singleton,
        mem_innerPages current (by omega), or_comm (b := p = total)]
    · intro front p gap q back hsplit bare
      exact GoesOn.gap_eq (hgoes.of_split (hmarkers ▸ hsplit)) bare
    · rw [hmarkers]
      rfl
    · rw [hmarkers, hgoes.getLast?_eq, hlast]
      rfl
    · rw [hmarkers]
      exact hgoes.no_two_ellipses
    · have hfew : (innerPages current total).length ≤ 3 := List.length_filter_le _ _
      rw [length_eq, hmarkers, numbers_page, hnumbers]
      simp
      omega
    · have hall : total.toNat = total.toNat - 1 + 1 := by omega
      have hfilled := hgoes.filled_eq hlast
      rw [UInt32.toNat_one] at hfilled
      rw [hmarkers, filled, UInt32.toNat_one, hfilled, hall, List.range'_succ]
      rfl
  · have hfew := Nat.le_of_not_lt hmany
    refine ⟨fun _ => ?_, fun h => absurd h hmany⟩
    simp only [markers, pageMarkers, pageMarkers?_of_few current hfew, Option.getD_some, allPages,
      List.range'_eq_map_range, List.map_map, Function.comp_def, Nat.add_comm 1]

/-- The last page of as many as 32 bits can count, where the page after it has no number, and a
page that does not exist among three. -/
theorem pager_at_largest_total :
    let last : UInt32 := 4294967295
    7 < last.toNat ∧
      pageMarkers last last = [.page 1] ++ .ellipsis :: [.page (last - 1), .page last] ∧
      pageMarkers? last last = some (pageMarkers last last) ∧
      filled 0 (pageMarkers last last) = List.range' 1 last.toNat ∧
      (3 : UInt32).toNat ≤ 7 ∧ pageMarkers 9 3 = [.page 1, .page 2, .page 3] := by
  intro last
  obtain ⟨hfits, _, hlong⟩ := pager_leaves_nothing_out last last
  obtain ⟨_, _, _, _, _, _, _, hfilled⟩ := hlong (by decide)
  obtain ⟨_, hshort, _⟩ := pager_leaves_nothing_out 9 3
  have hmarkers : pageMarkers last last =
      [.page 1, .ellipsis, .page (last - 1), .page last] := by decide +kernel
  refine ⟨by decide, hmarkers, hfits, hfilled, by decide, hshort (by decide)⟩

end DashboardClient
