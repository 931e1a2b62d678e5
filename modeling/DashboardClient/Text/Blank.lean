/-!
# Blank characters

The Unicode property White_Space and trimming by it. Trimming keeps what stands
between the first and the last character that is not blank.
-/

namespace DashboardClient.Text

/-- The 25 characters with the property White_Space. -/
def isBlank (c : Char) : Bool :=
  let n := c.toNat
  (0x09 ≤ n && n ≤ 0x0D) || n == 0x20 || n == 0x85 || n == 0xA0 || n == 0x1680 ||
    (0x2000 ≤ n && n ≤ 0x200A) || n == 0x2028 || n == 0x2029 || n == 0x202F ||
    n == 0x205F || n == 0x3000

/-- Drop the blank characters at the end. -/
def trimEnd (cs : List Char) : List Char :=
  (cs.reverse.dropWhile isBlank).reverse

/-- Drop the blank characters at both ends. -/
def trim (s : String) : String :=
  String.ofList (trimEnd (s.toList.dropWhile isBlank))

/-- Drop every `mark` at the end. -/
def trimEndOf (mark : Char) (s : String) : String :=
  String.ofList ((s.toList.reverse.dropWhile (· == mark)).reverse)

end DashboardClient.Text
