import DashboardClient.DomainName
import DashboardClient.Text.Decimal
import DashboardClient.Text.Hexadecimal
import DashboardClient.Text.Utf8

/-!
# Hosts

The canonical text of the host of a web address: a domain name in ASCII, an IPv4 address as
four decimal numbers, or an IPv6 address in brackets. A name that ends in a number has to be
an IPv4 address.
-/

namespace DashboardClient.Host

-- ---------------------------------------------------------------------------
-- Percent signs
-- ---------------------------------------------------------------------------

/-- The bytes of a text, with the byte that a percent sign and two digits stand for. -/
def percentDecode : List Char → List UInt8
  | '%' :: a :: b :: rest =>
    match Text.hexValue? a, Text.hexValue? b with
    | some x, some y => UInt8.ofNat (16 * x + y) :: percentDecode rest
    | _, _ => String.utf8EncodeChar '%' ++ percentDecode (a :: b :: rest)
  | c :: rest => String.utf8EncodeChar c ++ percentDecode rest
  | [] => []


-- ---------------------------------------------------------------------------
-- IPv4
-- ---------------------------------------------------------------------------

/-- The number that digits of a base spell; nothing spells zero. -/
def ofBase? (base : Nat) (cs : List Char) : Option Nat :=
  (cs.mapM fun c => (Text.hexValue? c).filter (· < base)).map
    (·.foldl (fun n d => base * n + d) 0)

/-- A number, hexadecimal after `0x`, octal after `0`, and decimal otherwise. -/
def ipv4Number? : List Char → Option Nat
  | [] => none
  | '0' :: 'x' :: cs => ofBase? 16 cs
  | '0' :: c :: cs => ofBase? 8 (c :: cs)
  | cs => ofBase? 10 cs

/-- The address that numbers stand for, each for a byte and the last for all bytes that are
left. -/
def ipv4OfNumbers? : Nat → List Nat → Option Nat
  | _, [] => none
  | left, [last] => if last < Nat.pow 256 left then some last else none
  | left, n :: rest =>
    if n < 256 ∧ 1 < left then
      (ipv4OfNumbers? (left - 1) rest).map (n * Nat.pow 256 (left - 1) + ·)
    else none

/-- The parts between the dots, without an empty one at the end. -/
def dotParts (cs : List Char) : List (List Char) :=
  let parts := cs.splitOn '.'
  if 1 < parts.length ∧ parts.getLast? = some [] then parts.dropLast else parts

/-- Whether the last part is a number. -/
def endsInNumber (parts : List (List Char)) : Bool :=
  parts.getLast?.any fun last =>
    (!last.isEmpty && last.all Char.isDigit) || (ipv4Number? last).isSome

/-- The bytes of a number, the first of `count` bytes first. -/
def bytesOf (n : Nat) : Nat → List Nat
  | 0 => []
  | count + 1 => n / Nat.pow 256 count % 256 :: bytesOf n count

/-- An IPv4 address as four decimal numbers. -/
def ipv4? (parts : List (List Char)) : Option String :=
  ((parts.mapM ipv4Number?).bind (ipv4OfNumbers? 4)).map fun n =>
    ".".intercalate ((bytesOf n 4).map toString)


-- ---------------------------------------------------------------------------
-- IPv6
-- ---------------------------------------------------------------------------

/-- The number that a group of one to four digits spells. -/
def group? (cs : List Char) : Option Nat :=
  if cs.isEmpty ∨ 4 < cs.length then none else ofBase? 16 cs

/-- A decimal number below 256 without leading zeros. -/
def byte? (cs : List Char) : Option Nat :=
  if cs.length > 1 ∧ cs.head? = some '0' then none
  else (Text.ofDigits? cs).filter (· < 256)

/-- The numbers of groups with colons between them. The last group may be an IPv4 address,
which counts for two. -/
def groups? : List (List Char) → Option (List Nat)
  | [] => some []
  | [last] =>
    if last.contains '.' then
      match (last.splitOn '.').mapM byte? with
      | some [a, b, c, d] => some [256 * a + b, 256 * c + d]
      | _ => none
    else (group? last).map ([·])
  | g :: rest => do return (← group? g) :: (← groups? rest)

/-- Cut a text at the first pair of colons. -/
def cutAtColons : List Char → List Char × Option (List Char)
  | ':' :: ':' :: rest => ([], some rest)
  | c :: rest =>
    let (before, behind) := cutAtColons rest
    (c :: before, behind)
  | [] => ([], none)

/-- The groups of one side of a pair of colons. -/
def side? (cs : List Char) : Option (List Nat) :=
  if cs.isEmpty then some [] else groups? (cs.splitOn ':')

/-- The eight numbers of an IPv6 address. A pair of colons stands for zeros. -/
def ipv6Numbers? (cs : List Char) : Option (List Nat) :=
  match cutAtColons cs with
  | (all, none) => (groups? (all.splitOn ':')).filter (·.length == 8)
  | (before, some behind) => do
    if before.contains '.' then none
    let first ← side? before
    let last ← side? behind
    if first.length + last.length < 8 then
      return first ++ List.replicate (8 - first.length - last.length) 0 ++ last
    else none

/-- How many zeros a list starts with. -/
def leadingZeros (ns : List Nat) : Nat :=
  (ns.takeWhile (· == 0)).length

/-- Where the first of the longest runs of zeros begins, and how long it is. -/
def longestZeros (ns : List Nat) : Nat × Nat :=
  (List.range ns.length).foldl (fun best start =>
    let length := leadingZeros (ns.drop start)
    if best.2 < length then (start, length) else best) (0, 0)

/-- Numbers in hexadecimal with colons between them. -/
def joinGroups (ns : List Nat) : String :=
  ":".intercalate (ns.map fun n => String.ofList (Text.hexDigits n))

/-- An IPv6 address in brackets. The longest run of zeros becomes a pair of colons. -/
def renderIpv6 (ns : List Nat) : String :=
  let (start, length) := longestZeros ns
  let text :=
    if length < 2 then joinGroups ns
    else joinGroups (ns.take start) ++ "::" ++ joinGroups (ns.drop (start + length))
  "[" ++ text ++ "]"


-- ---------------------------------------------------------------------------
-- Hosts
-- ---------------------------------------------------------------------------

/-- Characters that no name of a host can hold. -/
def isForbidden (c : Char) : Bool :=
  c.toNat ≤ 0x20 || c.toNat == 0x7F || "#%/:<>?@[\\]^|".toList.contains c

/-- The canonical text of a host. -/
def canonical? : List Char → Option String
  | '[' :: cs =>
    if cs.getLast? = some ']' then (ipv6Numbers? cs.dropLast).map renderIpv6 else none
  | cs => do
    let text ← Text.ofUtf8? (percentDecode cs)
    let name ← DomainName.ascii? text.toList
    if name.isEmpty || name.any isForbidden then none
    else if endsInNumber (dotParts name) then ipv4? (dotParts name)
    else some (String.ofList name)

end DashboardClient.Host
