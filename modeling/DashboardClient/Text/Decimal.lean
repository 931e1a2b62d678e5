/-!
# Decimal numerals

Unsigned numerals of 64 bits: one optional plus sign, then ASCII digits.
-/

namespace DashboardClient.Text

/-- The value of an ASCII digit. -/
def digitValue? (c : Char) : Option Nat :=
  if c.isDigit then some (c.toNat - '0'.toNat) else none

/-- The number that a list of digit values denotes, most significant first. -/
def ofDigitValues (ds : List Nat) : Nat :=
  ds.foldl (fun n d => 10 * n + d) 0

/-- The number that one or more ASCII digits denote. -/
def ofDigits? (cs : List Char) : Option Nat :=
  if cs.isEmpty then none else (cs.mapM digitValue?).map ofDigitValues

/-- The first number that does not fit into 64 bits. -/
def wordLimit : Nat := 0x10000000000000000

/-- A numeral that fits into 64 bits, with at most one plus sign in front. -/
def word64? (s : String) : Option Nat :=
  let digits := match s.toList with
    | '+' :: rest => rest
    | cs => cs
  (ofDigits? digits).filter (· < wordLimit)

end DashboardClient.Text
