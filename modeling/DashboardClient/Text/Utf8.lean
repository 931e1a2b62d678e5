/-!
# UTF-8

Reading bytes as text. The reader yields one item for each well-formed sequence
and one gap for each ill-formed piece, where a piece is the longest start of a
well-formed sequence, or else a single byte. Strict reading refuses gaps; lenient
reading puts U+FFFD in their place.
-/

namespace DashboardClient.Text

/-- A sequence that has been started: the bits so far, how many bytes are missing,
and the bounds of the next one. -/
structure Utf8Sequence where
  bits : Nat
  missing : Nat
  low : UInt8
  high : UInt8

/-- What a byte does where a sequence may start: an item, or a sequence that goes on. -/
def Utf8Sequence.start (b : UInt8) : List (Option Char) × Option Utf8Sequence :=
  let n := b.toNat
  if n < 0x80 then ([some (Char.ofNat n)], none)
  else if 0xC2 ≤ n && n ≤ 0xDF then ([], some ⟨n - 0xC0, 1, 0x80, 0xBF⟩)
  else if n == 0xE0 then ([], some ⟨0, 2, 0xA0, 0xBF⟩)
  else if n == 0xED then ([], some ⟨n - 0xE0, 2, 0x80, 0x9F⟩)
  else if 0xE1 ≤ n && n ≤ 0xEF then ([], some ⟨n - 0xE0, 2, 0x80, 0xBF⟩)
  else if n == 0xF0 then ([], some ⟨0, 3, 0x90, 0xBF⟩)
  else if 0xF1 ≤ n && n ≤ 0xF3 then ([], some ⟨n - 0xF0, 3, 0x80, 0xBF⟩)
  else if n == 0xF4 then ([], some ⟨4, 3, 0x80, 0x8F⟩)
  else ([none], none)

/-- Read one more byte. A byte that cannot continue the sequence ends it as a gap and
is read as the start of the next one. -/
def Utf8Sequence.next : Option Utf8Sequence → UInt8 → List (Option Char) × Option Utf8Sequence
  | none, b => start b
  | some s, b =>
    if s.low ≤ b && b ≤ s.high then
      let bits := s.bits * 64 + (b.toNat - 0x80)
      if s.missing ≤ 1 then ([some (Char.ofNat bits)], none)
      else ([], some ⟨bits, s.missing - 1, 0x80, 0xBF⟩)
    else
      let (items, sequence) := start b
      (none :: items, sequence)

/-- The items of a byte string, after an open sequence. -/
def utf8ItemsFrom : Option Utf8Sequence → List UInt8 → List (Option Char)
  | none, [] => []
  | some _, [] => [none]
  | s, b :: bs =>
    let (items, s') := Utf8Sequence.next s b
    items ++ utf8ItemsFrom s' bs

/-- The characters and gaps of a byte string, in order. -/
def utf8Items (bytes : List UInt8) : List (Option Char) :=
  utf8ItemsFrom none bytes

/-- Strict reading: every byte belongs to a well-formed sequence. -/
def ofUtf8? (bytes : List UInt8) : Option String :=
  ((utf8Items bytes).mapM id).map String.ofList

/-- Lenient reading: each gap becomes U+FFFD. -/
def ofUtf8Lossy (bytes : List UInt8) : String :=
  String.ofList ((utf8Items bytes).map (·.getD '\uFFFD'))

end DashboardClient.Text
