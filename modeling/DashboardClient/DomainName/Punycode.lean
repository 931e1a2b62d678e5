/-!
# Punycode

Labels in ASCII letters, digits and hyphens. The ASCII characters of a label come first,
and a hyphen behind them. Then each other character is a number, in ascending order of
code points: how many places and code points it is away from the one before it. Numbers
have digits of base 36 with the least significant one first. A digit below the threshold of
its place ends a number, and the thresholds adapt to the numbers so far.
-/

namespace DashboardClient.DomainName.Punycode

-- ---------------------------------------------------------------------------
-- Digits
-- ---------------------------------------------------------------------------

/-- Digits are the letters, and then the decimal digits. -/
def digitChar (d : Nat) : Char :=
  if d < 26 then Char.ofNat ('a'.toNat + d) else Char.ofNat ('0'.toNat + (d - 26))

/-- The value of a digit in lower case. -/
def digitValue? (c : Char) : Option Nat :=
  if c.isLower then some (c.toNat - 'a'.toNat)
  else if c.isDigit then some (c.toNat - '0'.toNat + 26)
  else none

/-- The place of the first digit. The places of the next ones are 36 apart. -/
def firstPlace : Nat := 36

/-- The digits below this end a number at a place. -/
def threshold (bias place : Nat) : Nat :=
  if place ≤ bias then 1 else min 26 (place - bias)

theorem threshold_pos (bias place : Nat) : 0 < threshold bias place := by
  unfold threshold
  split <;> omega

/-- The bias for numbers of a size. -/
def biasFor (size : Nat) : Nat :=
  if 455 < size then 36 + biasFor (size / 35) else 36 * size / (size + 38)
termination_by size
decreasing_by exact Nat.div_lt_self (by omega) (by omega)

/-- The bias behind a number, when `count` characters are placed. The first number is much
larger than the others. -/
def adapt (isFirst : Bool) (number count : Nat) : Nat :=
  let size := if isFirst then number / 700 else number / 2
  biasFor (size + size / count)

def firstBias : Nat := 72

/-- Code points from here on are written as numbers. -/
def firstPoint : Nat := 128


-- ---------------------------------------------------------------------------
-- Writing
-- ---------------------------------------------------------------------------

/-- The digits of a number, from a place on. -/
def digits (bias place n : Nat) : List Char :=
  let t := threshold bias place
  if n < t then [digitChar n]
  else digitChar (t + (n - t) % (36 - t)) :: digits bias (place + 36) ((n - t) / (36 - t))
termination_by n
decreasing_by
  have := threshold_pos bias place
  exact Nat.lt_of_le_of_lt (Nat.div_le_self _ _) (by omega)

/-- A label that is being written: the numbers so far, the next number as far as it is
known, the bias for it, and how many characters are placed. -/
structure Writer where
  text : List Char := []
  number : Nat := 0
  bias : Nat := firstBias
  placed : Nat

namespace Writer

/-- Pass a character while those with a code point are placed. It is written if it is one
of them, and counts if it has been placed before. -/
def pass (plain point : Nat) (w : Writer) (c : Char) : Writer :=
  if c.toNat < point then { w with number := w.number + 1 }
  else if c.toNat = point then {
    text := w.text ++ digits w.bias firstPlace w.number
    number := 0
    bias := adapt (w.placed == plain) w.number (w.placed + 1)
    placed := w.placed + 1 }
  else w

/-- Place the characters with the listed code points. All that come before `next` are
placed. -/
def place (plain : Nat) (cs : List Char) (next : Nat) (w : Writer) : List Nat → Writer
  | [] => w
  | point :: points =>
    let w := { w with number := w.number + (point - next) * (w.placed + 1) }
    let w := cs.foldl (pass plain point) w
    place plain cs (point + 1) { w with number := w.number + 1 } points

end Writer

def isAscii (c : Char) : Bool :=
  c.toNat < firstPoint

/-- Write a label. -/
def encode (cs : List Char) : List Char :=
  let plain := cs.filter isAscii
  let points := (((cs.filter (!isAscii ·)).map Char.toNat).mergeSort (· ≤ ·)).eraseDups
  let written := Writer.place plain.length cs firstPoint { placed := plain.length } points
  plain ++ (if plain.isEmpty then [] else ['-']) ++ written.text


-- ---------------------------------------------------------------------------
-- Reading
-- ---------------------------------------------------------------------------

/-- A label that is being read: the text and the code point so far, the place that the last
number led to, the sum of that and the number that is being read, and the bias, the place
and the weight of the next digit. -/
structure Reader where
  text : List Char
  point : Nat := firstPoint
  start : Nat := 0
  index : Nat := 0
  bias : Nat := firstBias
  place : Nat := firstPlace
  weight : Nat := 1

namespace Reader

/-- The first number that is too large to be read. -/
def limit : Nat := 0x100000000

/-- End a number, which places a character. -/
def finish? (r : Reader) : Option Reader :=
  let count := r.text.length + 1
  let point := r.point + r.index / count
  let i := r.index % count
  if point.isValidChar then
    some {
      text := r.text.insertIdx i (Char.ofNat point)
      point
      start := i + 1
      index := i + 1
      bias := adapt (r.start == 0) (r.index - r.start) count }
  else none

/-- Read a digit. -/
def next? (r : Reader) (c : Char) : Option Reader := do
  let d ← digitValue? c
  let t := threshold r.bias r.place
  let r := { r with index := r.index + d * r.weight }
  if limit ≤ r.index then none
  else if d < t then r.finish?
  else if limit ≤ r.weight * (36 - t) then none
  else some { r with place := r.place + 36, weight := r.weight * (36 - t) }

end Reader

/-- Read a label. A hyphen in front of the numbers needs ASCII characters in front of it. -/
def decode? (cs : List Char) : Option (List Char) := do
  let code := (cs.reverse.takeWhile (· != '-')).reverse
  let plain := (cs.take (cs.length - code.length)).dropLast
  if plain.isEmpty && cs.contains '-' then none
  else
    let r ← code.foldlM Reader.next? { text := plain }
    if r.place = firstPlace then some r.text else none

end DashboardClient.DomainName.Punycode
