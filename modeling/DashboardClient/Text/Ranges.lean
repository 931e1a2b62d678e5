/-!
# Tables of characters

Tables that say which code points have a property, as ranges, and what code points stand
for, as runs of entries for consecutive ones.
-/

namespace DashboardClient.Text

variable {α : Type}

/-- Whether a code point is in one of the ranges, both ends included. -/
def inRanges (ranges : List (Nat × Nat)) (n : Nat) : Bool :=
  ranges.any fun r => r.1 ≤ n && n ≤ r.2

/-- The entry for a code point. Each run comes with its first code point. -/
def entry? (runs : List (Nat × List α)) (n : Nat) : Option α :=
  runs.findSome? fun (start, entries) => if start ≤ n then entries[n - start]? else none

/-- The character for a code point, from runs with one character for each code point. -/
def letter? (runs : List (Nat × String)) (n : Nat) : Option Char :=
  runs.findSome? fun (start, letters) => if start ≤ n then letters.toList[n - start]? else none

end DashboardClient.Text
