/-!
# Replacing one element

Replace or take out the first element of a list that satisfies a test. What this does
to the weight of the list is stated once, for every kind of weight.
-/

namespace DashboardClient

/-- Put `new` in place of the first element that satisfies `p`, or take that element out. -/
def replaceFirst {α : Type} (p : α → Bool) (new : Option α) : List α → List α
  | [] => []
  | x :: xs => if p x then new.toList ++ xs else x :: replaceFirst p new xs

/-- The weight of an element that may be absent. -/
def weightOf {α : Type} (weight : α → Nat) : Option α → Nat
  | none => 0
  | some x => weight x

/-- The weight of all elements together. -/
def totalWeight {α : Type} (weight : α → Nat) : List α → Nat
  | [] => 0
  | x :: xs => weight x + totalWeight weight xs

theorem totalWeight_one {α : Type} (xs : List α) : totalWeight (fun _ => 1) xs = xs.length := by
  induction xs with
  | nil => rfl
  | cons x xs ih => simp only [totalWeight, ih, List.length_cons, Nat.add_comm]

theorem totalWeight_replaceFirst {α : Type} {p : α → Bool} {old : α} {xs : List α}
    (weight : α → Nat) (new : Option α) (h : xs.find? p = some old) :
    totalWeight weight (replaceFirst p new xs) + weight old =
      totalWeight weight xs + weightOf weight new := by
  induction xs with
  | nil => cases h
  | cons x xs ih =>
    simp only [List.find?_cons] at h
    simp only [replaceFirst]
    cases hp : p x with
    | true =>
      simp only [hp, Option.some.injEq] at h
      subst h
      cases new with
      | none =>
        simp only [if_true, Option.toList_none, List.nil_append, totalWeight, weightOf]
        omega
      | some y =>
        simp only [if_true, Option.toList_some, List.singleton_append, totalWeight, weightOf]
        omega
    | false =>
      simp only [hp] at h
      have := ih h
      simp only [Bool.false_eq_true, if_false, totalWeight]
      omega

end DashboardClient
