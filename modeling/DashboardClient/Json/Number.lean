import DashboardClient.Json.Token
import DashboardClient.Text.Decimal

/-!
# JSON numbers

An integer that fits 64 bits is kept exactly, signed or unsigned. Any other number is
a double: its leading digits are taken into 64 bits, rounded once, and then multiplied
or divided by a power of ten, which rounds once more. A number beyond the doubles is
refused.

A double is written with the fewest digits that read back, positional when the point
stands within sixteen digits to the right or five to the left, scientific otherwise.
-/

namespace DashboardClient.Json

/-- A JSON number: an integer of 64 bits, or a double in its bits. -/
inductive Number where
  | int (value : Int)
  | double (bits : UInt64)
  deriving DecidableEq, Repr

namespace Number

/-- The weight of the sign bit of 64 bits. -/
def signWeight : Nat := 0x8000000000000000

/-- The number as a double. -/
def ofFloat (x : Float) : Number :=
  .double x.toBits


-- ---------------------------------------------------------------------------
-- Reading
-- ---------------------------------------------------------------------------

/-- Take digits into a significand of 64 bits; the digits from the first that does not
fit are left over. -/
def absorb (significand : Nat) : List Nat → Nat × List Nat
  | [] => (significand, [])
  | d :: ds =>
    if 10 * significand + d < Text.wordLimit then absorb (10 * significand + d) ds
    else (significand, d :: ds)

/-- Ten to the power of `n`. -/
def powerOfTen (n : Nat) : Float :=
  Float.ofScientific 1 false n

/-- Multiply by ten to the power of `exponent`, or refuse what is beyond the doubles.
A power below the range of doubles is taken in portions of 308. -/
def scale? (x : Float) (exponent : Int) : Option Float :=
  if 0 ≤ exponent then
    if x == 0.0 then some x
    else if exponent ≤ 308 then
      let y := x * powerOfTen exponent.toNat
      if y.isInf then none else some y
    else none
  else if -308 ≤ exponent then some (x / powerOfTen (-exponent).toNat)
  else if x == 0.0 then some x
  else scale? (x / powerOfTen 308) (exponent + 308)
  termination_by (-exponent).toNat

/-- The number that a numeral denotes, if it is in range. -/
def ofNumeral? (n : Numeral) : Option Number :=
  let (significand, leftOver) := absorb 0 n.whole
  let sign (x : Float) : Float := if n.negative then -x else x
  match leftOver, n.fraction, n.exponent with
  | [], [], none =>
    if !n.negative then some (.int significand)
    else if 0 < significand ∧ significand ≤ signWeight then some (.int (-significand))
    else some (ofFloat (-(UInt64.ofNat significand).toFloat))
  | _, _, _ =>
    let (significand', unread) := absorb significand n.fraction
    let written : Int := match n.exponent with
      | none => 0
      | some e =>
        let size := Int.ofNat (e.digits.foldl (fun k d => 10 * k + d) 0)
        if e.negative then -size else size
    let exponent := written + leftOver.length - (n.fraction.length - unread.length : Nat)
    (scale? (UInt64.ofNat significand').toFloat exponent).map fun x => ofFloat (sign x)


-- ---------------------------------------------------------------------------
-- Writing
-- ---------------------------------------------------------------------------

/-- The weight of the bit that normal doubles leave out. -/
def hiddenBit : Nat := 0x10000000000000

/-- A positive double as a fraction of natural numbers. -/
def fractionOf (bits : UInt64) : Nat × Nat :=
  let field := (bits >>> 52).toNat % 2048
  let low := bits.toNat % hiddenBit
  let (mantissa, power) :=
    if field = 0 then (low, (-1074 : Int)) else (low + hiddenBit, field - 1075)
  if 0 ≤ power then (mantissa * Nat.pow 2 power.toNat, 1)
  else (mantissa, Nat.pow 2 (-power).toNat)

/-- How often ten has to be multiplied to `n` until it reaches `d`, within `fuel` steps. -/
def stepsUp (n d : Nat) : Nat → Nat
  | 0 => 0
  | fuel + 1 => if d ≤ n then 0 else stepsUp (10 * n) d fuel + 1

/-- The exponent of the leading decimal digit of `n / d`. -/
def leadingExponent (n d : Nat) : Int :=
  if d ≤ n then (Nat.toDigits 10 (n / d)).length - 1 else -(stepsUp n d 400)

/-- The double nearest to `digits` times ten to the power of `exponent`. -/
def nearestBits (digits : Nat) (exponent : Int) : UInt64 :=
  (Float.ofScientific digits (exponent < 0) exponent.natAbs).toBits

/-- Of the two decimals with `count` digits around `n / d`, the nearer one that reads
back as `bits`, if one does. -/
def decimalOf? (bits : UInt64) (n d count : Nat) : Option (Nat × Int) :=
  let exponent := leadingExponent n d - (count - 1 : Int)
  let (n', d') :=
    if 0 ≤ exponent then (n, d * Nat.pow 10 exponent.toNat)
    else (n * Nat.pow 10 (-exponent).toNat, d)
  let floor := n' / d'
  let below := nearestBits floor exponent == bits
  let above := nearestBits (floor + 1) exponent == bits
  let nearerBelow := 2 * (n' % d') < d' || (2 * (n' % d') == d' && floor % 2 == 0)
  if below && (nearerBelow || !above) then some (floor, exponent)
  else if above then some (floor + 1, exponent)
  else none

/-- The shortest decimal that reads back as the positive double `bits`. -/
def shortestDecimal (bits : UInt64) : Nat × Int :=
  let (n, d) := fractionOf bits
  ((List.range 17).findSome? fun i => decimalOf? bits n d (i + 1)).getD (0, 0)

/-- Write `digits` times ten to the power of `exponent`. -/
def writeDecimal (digits : Nat) (exponent : Int) : String :=
  let ds := Nat.toDigits 10 digits
  let point : Int := ds.length + exponent
  if 0 ≤ exponent ∧ point ≤ 16 then
    String.ofList (ds ++ List.replicate exponent.toNat '0' ++ ['.', '0'])
  else if 0 < point ∧ point ≤ 16 then
    String.ofList (ds.take point.toNat ++ '.' :: ds.drop point.toNat)
  else if -5 < point ∧ point ≤ 0 then
    String.ofList (['0', '.'] ++ List.replicate (-point).toNat '0' ++ ds)
  else
    let lead := match ds with
      | [] => []
      | [d] => [d]
      | d :: rest => d :: '.' :: rest
    String.ofList lead ++ "e" ++ toString (point - 1)

/-- The digits without the zeros at the end, which go into the exponent. -/
def stripZeros (digits : Nat) (exponent : Int) : Nat × Int :=
  if h : digits ≠ 0 ∧ digits % 10 = 0 then stripZeros (digits / 10) (exponent + 1)
  else (digits, exponent)
  termination_by digits
  decreasing_by omega

/-- The number as JSON text. -/
def render : Number → String
  | .int value => toString value
  | .double bits =>
    let sign := if bits.toNat < signWeight then "" else "-"
    let size := UInt64.ofNat (bits.toNat % signWeight)
    if size = 0 then sign ++ "0.0"
    else
      let (digits, exponent) := shortestDecimal size
      let (digits, exponent) := stripZeros digits exponent
      sign ++ writeDecimal digits exponent

end Number

end DashboardClient.Json
