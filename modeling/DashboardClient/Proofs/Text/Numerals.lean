import DashboardClient.Proofs.PartialMaps
import DashboardClient.Text.Decimal
import Mathlib.Data.List.Induction
import Mathlib.Data.Nat.Digits.Defs

/-!
# What numerals denote

A numeral is one or more ASCII digits and denotes a number in base ten, zeros in front included. A
numeral of 64 bits may have one plus sign in front, and its number fits into 64 bits.
-/

namespace DashboardClient.Text

variable {c : Char} {cs : List Char} {n : Nat}

/-- The digits denote the number in base ten. -/
structure Denotes (digits : List Char) (n : Nat) : Prop where
  nonempty : digits ≠ []
  ascii : ∀ c ∈ digits, '0' ≤ c ∧ c ≤ '9'
  value : Nat.ofDigits 10 (digits.reverse.map fun c => c.toNat - '0'.toNat) = n

/-- The text is a numeral of 64 bits for the number. -/
def IsNumeral (text : String) (n : Nat) : Prop :=
  ∃ digits, (text.toList = digits ∨ text.toList = '+' :: digits) ∧ Denotes digits n ∧ n < 2 ^ 64

theorem ofDigitValues_eq (ds : List Nat) : ofDigitValues ds = Nat.ofDigits 10 ds.reverse := by
  induction ds using List.reverseRecOn with
  | nil => rfl
  | append_singleton ds d ih =>
    have hlast : ofDigitValues (ds ++ [d]) = 10 * ofDigitValues ds + d := by
      simp [ofDigitValues]
    rw [hlast, ih, List.reverse_append, List.reverse_singleton, List.singleton_append,
      Nat.ofDigits_cons, Nat.add_comm]

theorem digitValue?_eq_some_iff {d : Nat} :
    digitValue? c = some d ↔ ('0' ≤ c ∧ c ≤ '9') ∧ c.toNat - '0'.toNat = d := by
  have hdigit : c.isDigit = true ↔ '0' ≤ c ∧ c ≤ '9' := by
    simp only [Char.isDigit, Bool.and_eq_true, decide_eq_true_eq]
    exact Iff.rfl
  rw [digitValue?, ← hdigit]
  split <;> simp_all

theorem ofDigits?_eq_some_iff : ofDigits? cs = some n ↔ Denotes cs n := by
  rw [ofDigits?]
  split
  · next hnil =>
    exact iff_of_false nofun fun h => h.nonempty (List.isEmpty_iff.1 hnil)
  · next hne =>
    simp only [Option.map_eq_some_iff,
      mapM_eq_some_iff_of_accepts fun _ _ => digitValue?_eq_some_iff, ofDigitValues_eq]
    constructor
    · rintro ⟨_, ⟨ascii, rfl⟩, value⟩
      exact ⟨by simpa using hne, ascii, by rwa [List.map_reverse]⟩
    · rintro ⟨-, ascii, value⟩
      exact ⟨_, ⟨ascii, rfl⟩, by rwa [← List.map_reverse]⟩

/-- Exactly the numerals of 64 bits can be read. -/
theorem word64?_eq_some_iff {text : String} : word64? text = some n ↔ IsNumeral text n := by
  have hplus {digits : List Char} (h : Denotes ('+' :: digits) n) : False :=
    absurd (h.ascii '+' List.mem_cons_self) (by decide)
  simp only [word64?, Option.filter_eq_some_iff, ofDigits?_eq_some_iff, decide_eq_true_eq]
  split
  · next digits hplus' =>
    rw [IsNumeral, hplus']
    constructor
    · rintro ⟨denotes, fits⟩
      exact ⟨digits, .inr rfl, denotes, fits⟩
    · rintro ⟨_, rfl | hdigits, denotes, fits⟩
      · exact (hplus denotes).elim
      · obtain rfl := (List.cons.inj hdigits).2
        exact ⟨denotes, fits⟩
  · next hbare =>
    constructor
    · rintro ⟨denotes, fits⟩
      exact ⟨_, .inl rfl, denotes, fits⟩
    · rintro ⟨digits, rfl | hdigits, denotes, fits⟩
      · exact ⟨denotes, fits⟩
      · exact absurd hdigits (hbare digits)

end DashboardClient.Text
