import DashboardClient.Text.Blank
import Mathlib.Data.List.DropRight

/-!
# Trimmed texts

What is left of a text when blanks go at both ends, or one mark at its end. To trim twice is to
trim once, and a text that starts with something else than a blank keeps its first character.
-/

namespace DashboardClient.Text

variable {p : Char → Bool} {c mark : Char} {s : String}

/-- What stands in front is only touched where nothing is left of what stands behind. -/
theorem rdropWhile_append (front back : List Char) :
    (front ++ back).rdropWhile p =
      if back.rdropWhile p = [] then front.rdropWhile p else front ++ back.rdropWhile p := by
  simp only [List.rdropWhile, List.reverse_append, List.dropWhile_append, List.isEmpty_iff,
    List.reverse_eq_nil_iff]
  split
  · rfl
  · rw [List.reverse_append, List.reverse_reverse]

theorem rdropWhile_cons_of_neg (hc : p c = false) (cs : List Char) :
    (c :: cs).rdropWhile p = c :: cs.rdropWhile p := by
  rw [← List.singleton_append, rdropWhile_append, List.rdropWhile_singleton, hc]
  split
  · next hnil => rw [hnil]; rfl
  · rfl

theorem last_rdropWhile {cs : List Char} (h : (cs.rdropWhile p).getLast? = some c) :
    p c = false := by
  obtain ⟨hne, rfl⟩ := List.mem_getLast?_eq_getLast h
  exact Bool.eq_false_iff.2 (List.rdropWhile_last_not p cs hne)


-- ---------------------------------------------------------------------------
-- Blanks at both ends
-- ---------------------------------------------------------------------------

theorem toList_trim (s : String) :
    (trim s).toList = (s.toList.dropWhile isBlank).rdropWhile isBlank :=
  String.toList_ofList

/-- A trimmed text is empty, or it starts with the first character that is not blank. -/
theorem toList_trim_cases (s : String) :
    (trim s).toList = [] ∨ ∃ c cs, isBlank c = false ∧ s.toList.dropWhile isBlank = c :: cs ∧
      (trim s).toList = c :: cs.rdropWhile isBlank := by
  rw [toList_trim]
  have hhead := List.head?_dropWhile_not isBlank s.toList
  cases hdrop : s.toList.dropWhile isBlank with
  | nil => exact .inl rfl
  | cons c cs =>
    have hc : isBlank c = false := by simpa [hdrop] using hhead
    exact .inr ⟨c, cs, hc, rfl, rdropWhile_cons_of_neg hc cs⟩

/-- The second text is what stands between the blanks at both ends of the first one. -/
structure IsTrimmed (whole middle : String) : Prop where
  split : ∃ front back, whole.toList = front ++ middle.toList ++ back ∧
    (∀ c ∈ front, isBlank c = true) ∧ ∀ c ∈ back, isBlank c = true
  head : ∀ c, middle.toList.head? = some c → isBlank c = false
  last : ∀ c, middle.toList.getLast? = some c → isBlank c = false

theorem isTrimmed_trim (s : String) : IsTrimmed s (trim s) where
  split := by
    refine ⟨s.toList.takeWhile isBlank, (s.toList.dropWhile isBlank).rtakeWhile isBlank, ?_, ?_,
      fun c => List.mem_rtakeWhile_imp⟩
    · rw [toList_trim, List.append_assoc, List.rdropWhile_append_rtakeWhile,
        List.takeWhile_append_dropWhile]
    · intro c hc
      exact List.mem_takeWhile_imp hc
  head c hc := by
    obtain hnil | ⟨d, cs, hd, -, htrim⟩ := toList_trim_cases s
    · rw [hnil] at hc
      cases hc
    · rw [htrim] at hc
      obtain rfl : d = c := Option.some.inj hc
      exact hd
  last c hc := by
    rw [toList_trim] at hc
    exact last_rdropWhile hc

theorem head?_trim_of_head? (h : s.toList.head? = some c) (hc : isBlank c = false) :
    (trim s).toList.head? = some c := by
  obtain ⟨cs, hs⟩ := List.head?_eq_some_iff.1 h
  rw [toList_trim, hs, List.dropWhile_cons_of_neg (by simp [hc]), rdropWhile_cons_of_neg hc,
    List.head?_cons]

theorem trim_trim (s : String) : trim (trim s) = trim s := by
  rw [← String.toList_inj, toList_trim (trim s)]
  rcases toList_trim_cases s with hnil | ⟨c, cs, hc, _, htrim⟩
  · rw [hnil]
    rfl
  · rw [htrim, List.dropWhile_cons_of_neg (by simp [hc]), rdropWhile_cons_of_neg hc,
      List.rdropWhile_idempotent]


-- ---------------------------------------------------------------------------
-- One mark at the end
-- ---------------------------------------------------------------------------

theorem toList_trimEndOf (mark : Char) (s : String) :
    (trimEndOf mark s).toList = s.toList.rdropWhile (· == mark) :=
  String.toList_ofList

theorem trimEndOf_trimEndOf (mark : Char) (s : String) :
    trimEndOf mark (trimEndOf mark s) = trimEndOf mark s := by
  rw [← String.toList_inj, toList_trimEndOf, toList_trimEndOf, List.rdropWhile_idempotent]

theorem getLast?_trimEndOf_ne (mark : Char) (s : String) :
    (trimEndOf mark s).toList.getLast? ≠ some mark := by
  intro h
  rw [toList_trimEndOf] at h
  have hmark := last_rdropWhile h
  simp at hmark

end DashboardClient.Text
