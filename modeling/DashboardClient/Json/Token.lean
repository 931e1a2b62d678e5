import DashboardClient.Text.Hexadecimal

/-!
# JSON tokens

The lexemes of JSON text. A string is kept as it is spelled, piece by piece, because a
lone surrogate escape is an error only where the text of the string is wanted. A
numeral is kept as digits, so that no size is out of reach.
-/

namespace DashboardClient.Json

/-- One piece of a string: a character, or the code unit of a `\u` escape. -/
inductive Piece where
  | char (c : Char)
  | unit (code : Nat)
  deriving DecidableEq, Repr

/-- The exponent part of a numeral. -/
structure Exponent where
  negative : Bool
  digits : List Nat
  deriving DecidableEq, Repr

/-- A number as it is spelled, in digit values. -/
structure Numeral where
  negative : Bool
  whole : List Nat
  fraction : List Nat
  exponent : Option Exponent
  deriving DecidableEq, Repr

/-- The tokens of JSON. -/
inductive Token where
  | openBrace
  | closeBrace
  | openBracket
  | closeBracket
  | colon
  | comma
  | null
  | bool (b : Bool)
  | string (pieces : List Piece)
  | number (numeral : Numeral)
  deriving DecidableEq, Repr


-- ---------------------------------------------------------------------------
-- Strings
-- ---------------------------------------------------------------------------

/-- The code unit that four hexadecimal digits spell. -/
def unitOfHex? (a b c d : Char) : Option Nat := do
  return (((← Text.hexValue? a) * 16 + (← Text.hexValue? b)) * 16 + (← Text.hexValue? c)) * 16 +
    (← Text.hexValue? d)

/-- The character that a backslash and the letter stand for. -/
def escaped? : Char → Option Char
  | '"' => some '"'
  | '\\' => some '\\'
  | '/' => some '/'
  | 'b' => some '\x08'
  | 'f' => some '\x0c'
  | 'n' => some '\n'
  | 'r' => some '\r'
  | 't' => some '\t'
  | _ => none

/-- The pieces of a string up to its closing quote, and what follows the quote. -/
def readString : List Char → Option (List Piece × List Char)
  | [] => none
  | '"' :: rest => some ([], rest)
  | '\\' :: 'u' :: a :: b :: c :: d :: rest => do
    let code ← unitOfHex? a b c d
    let (pieces, after) ← readString rest
    return (.unit code :: pieces, after)
  | '\\' :: e :: rest => do
    let c ← escaped? e
    let (pieces, after) ← readString rest
    return (.char c :: pieces, after)
  | c :: rest =>
    if c.toNat < 0x20 then none
    else do
      let (pieces, after) ← readString rest
      return (.char c :: pieces, after)

/-- A code unit that opens a surrogate pair. -/
def isHighSurrogate (code : Nat) : Bool :=
  0xD800 ≤ code && code ≤ 0xDBFF

/-- A code unit that closes a surrogate pair. -/
def isLowSurrogate (code : Nat) : Bool :=
  0xDC00 ≤ code && code ≤ 0xDFFF

/-- The character of a surrogate pair. -/
def ofSurrogates (high low : Nat) : Char :=
  Char.ofNat (0x10000 + (high - 0xD800) * 0x400 + (low - 0xDC00))

/-- The characters that pieces stand for. There are none where a surrogate stands alone. -/
def charsOfPieces? : List Piece → Option (List Char)
  | [] => some []
  | .char c :: rest => (charsOfPieces? rest).map (c :: ·)
  | .unit high :: .unit low :: rest =>
    if isHighSurrogate high then
      if isLowSurrogate low then (charsOfPieces? rest).map (ofSurrogates high low :: ·) else none
    else if isLowSurrogate high then none
    else (charsOfPieces? (.unit low :: rest)).map (Char.ofNat high :: ·)
  | .unit code :: rest =>
    if isHighSurrogate code || isLowSurrogate code then none
    else (charsOfPieces? rest).map (Char.ofNat code :: ·)

/-- The text of a string token. -/
def textOfPieces? (pieces : List Piece) : Option String :=
  (charsOfPieces? pieces).map String.ofList

theorem readString_length {cs : List Char} {pieces : List Piece} {after : List Char}
    (h : readString cs = some (pieces, after)) : after.length < cs.length := by
  fun_induction readString cs generalizing pieces after with
  | case1 => cases h
  | case2 rest => cases h; simp
  | case3 a b c d rest ih =>
    simp only [bind, Option.bind_eq_some_iff] at h
    obtain ⟨code, -, ⟨ps, r⟩, hr, h⟩ := h
    cases h
    have := ih hr
    simp only [List.length_cons]; omega
  | case4 e rest _ ih =>
    simp only [bind, Option.bind_eq_some_iff] at h
    obtain ⟨c, -, ⟨ps, r⟩, hr, h⟩ := h
    cases h
    have := ih hr
    simp only [List.length_cons]; omega
  | case5 => cases h
  | case6 c rest _ _ _ _ ih =>
    simp only [bind, Option.bind_eq_some_iff] at h
    obtain ⟨⟨ps, r⟩, hr, h⟩ := h
    cases h
    have := ih hr
    simp only [List.length_cons]; omega


-- ---------------------------------------------------------------------------
-- Numerals
-- ---------------------------------------------------------------------------

/-- The digits that the text starts with, and what follows them. -/
def readDigits : List Char → List Nat × List Char
  | [] => ([], [])
  | c :: rest =>
    if c.isDigit then
      let (ds, after) := readDigits rest
      ((c.toNat - '0'.toNat) :: ds, after)
    else ([], c :: rest)

/-- At least one digit. -/
def readDigits1 (cs : List Char) : Option (List Nat × List Char) :=
  match readDigits cs with
  | ([], _) => none
  | r => some r

/-- The whole part: a zero alone, or digits that do not start with one. -/
def readWhole : List Char → Option (List Nat × List Char)
  | '0' :: rest => some ([0], rest)
  | cs => readDigits1 cs

/-- The fraction, if a point follows. -/
def readFraction : List Char → Option (List Nat × List Char)
  | '.' :: rest => readDigits1 rest
  | cs => some ([], cs)

/-- The exponent, if its letter follows. -/
def readExponent : List Char → Option (Option Exponent × List Char)
  | c :: rest =>
    if c = 'e' ∨ c = 'E' then
      let (negative, digits) := match rest with
        | '-' :: r => (true, r)
        | '+' :: r => (false, r)
        | r => (false, r)
      (readDigits1 digits).map fun (ds, after) => (some ⟨negative, ds⟩, after)
    else some (none, c :: rest)
  | [] => some (none, [])

/-- The numeral that the text starts with. -/
def readNumeral (cs : List Char) : Option (Numeral × List Char) := do
  let (negative, digits) := match cs with
    | '-' :: rest => (true, rest)
    | cs => (false, cs)
  let (whole, afterWhole) ← readWhole digits
  let (fraction, afterFraction) ← readFraction afterWhole
  let (exponent, after) ← readExponent afterFraction
  return (⟨negative, whole, fraction, exponent⟩, after)

theorem readDigits_length (cs : List Char) :
    (readDigits cs).1.length + (readDigits cs).2.length = cs.length := by
  induction cs with
  | nil => rfl
  | cons c rest ih =>
    simp only [readDigits]
    split
    · simp only [List.length_cons]
      omega
    · simp

theorem readDigits1_length {cs : List Char} {ds : List Nat} {after : List Char}
    (h : readDigits1 cs = some (ds, after)) : after.length < cs.length := by
  have hl := readDigits_length cs
  unfold readDigits1 at h
  split at h
  · cases h
  · next r hne =>
    rw [Option.some.injEq] at h
    rw [h] at hl
    cases ds with
    | nil => exact absurd h (hne after)
    | cons d ds => simp only [List.length_cons] at hl; omega

theorem readWhole_length {cs : List Char} {ds : List Nat} {after : List Char}
    (h : readWhole cs = some (ds, after)) : after.length < cs.length := by
  unfold readWhole at h
  split at h
  · cases h; simp
  · exact readDigits1_length h

theorem readFraction_length {cs : List Char} {ds : List Nat} {after : List Char}
    (h : readFraction cs = some (ds, after)) : after.length ≤ cs.length := by
  unfold readFraction at h
  split at h
  · have := readDigits1_length h
    simp only [List.length_cons]; omega
  · cases h; exact Nat.le_refl _

theorem readExponent_length {cs : List Char} {e : Option Exponent} {after : List Char}
    (h : readExponent cs = some (e, after)) : after.length ≤ cs.length := by
  unfold readExponent at h
  split at h
  · next c rest =>
    split at h
    · simp only [Option.map_eq_some_iff] at h
      obtain ⟨⟨ds, r⟩, hr, h⟩ := h
      cases h
      have := readDigits1_length hr
      split at this <;> simp only [List.length_cons] at * <;> omega
    · cases h; exact Nat.le_refl _
  · cases h; exact Nat.le_refl _

theorem readNumeral_length {cs : List Char} {n : Numeral} {after : List Char}
    (h : readNumeral cs = some (n, after)) : after.length < cs.length := by
  simp only [readNumeral, bind, Option.bind_eq_some_iff] at h
  obtain ⟨⟨w, rw⟩, hw, ⟨f, rf⟩, hf, ⟨e, re⟩, he, h⟩ := h
  cases h
  have h1 := readWhole_length hw
  have h2 := readFraction_length hf
  have h3 := readExponent_length he
  split at h1 <;> simp only [List.length_cons] at * <;> omega


-- ---------------------------------------------------------------------------
-- Text to tokens
-- ---------------------------------------------------------------------------

/-- The white space of JSON. -/
def isSpace (c : Char) : Bool :=
  c == ' ' || c == '\t' || c == '\n' || c == '\r'

/-- What follows the word, if the text starts with it. -/
def afterWord : List Char → List Char → Option (List Char)
  | [], cs => some cs
  | w :: word, c :: cs => if w = c then afterWord word cs else none
  | _ :: _, [] => none

/-- The token that starts with `c`, and what follows it. -/
def readToken (c : Char) (rest : List Char) : Option (Token × List Char) :=
  match c with
  | '\x7b' => some (.openBrace, rest)
  | '\x7d' => some (.closeBrace, rest)
  | '[' => some (.openBracket, rest)
  | ']' => some (.closeBracket, rest)
  | ':' => some (.colon, rest)
  | ',' => some (.comma, rest)
  | '"' => (readString rest).map fun (pieces, after) => (.string pieces, after)
  | 'n' => (afterWord ['u', 'l', 'l'] rest).map fun after => (.null, after)
  | 't' => (afterWord ['r', 'u', 'e'] rest).map fun after => (.bool true, after)
  | 'f' => (afterWord ['a', 'l', 's', 'e'] rest).map fun after => (.bool false, after)
  | c => (readNumeral (c :: rest)).map fun (n, after) => (.number n, after)

theorem afterWord_length {word cs after : List Char} (h : afterWord word cs = some after) :
    after.length ≤ cs.length := by
  fun_induction afterWord word cs with
  | case1 => cases h; exact Nat.le_refl _
  | case2 word w cs ih => have := ih h; simp only [List.length_cons]; omega
  | case3 => cases h
  | case4 => cases h

theorem readToken_length {c : Char} {rest : List Char} {t : Token} {after : List Char}
    (h : readToken c rest = some (t, after)) : after.length ≤ rest.length := by
  unfold readToken at h
  split at h
  case h_1 => cases h; exact Nat.le_refl _
  case h_2 => cases h; exact Nat.le_refl _
  case h_3 => cases h; exact Nat.le_refl _
  case h_4 => cases h; exact Nat.le_refl _
  case h_5 => cases h; exact Nat.le_refl _
  case h_6 => cases h; exact Nat.le_refl _
  case h_7 =>
    simp only [Option.map_eq_some_iff] at h
    obtain ⟨⟨ps, r⟩, hr, h⟩ := h
    cases h
    exact Nat.le_of_lt (readString_length hr)
  case h_11 =>
    simp only [Option.map_eq_some_iff] at h
    obtain ⟨⟨n, r⟩, hr, h⟩ := h
    cases h
    exact Nat.le_of_lt_succ (readNumeral_length hr)
  all_goals
    simp only [Option.map_eq_some_iff] at h
    obtain ⟨r, hr, h⟩ := h
    cases h
    exact afterWord_length hr

/-- Read tokens to the end of the text, after those of `before`, which stand last first. -/
def tokensAfter (before : List Token) (cs : List Char) : Option (List Token) :=
  match cs with
  | [] => some before.reverse
  | c :: rest =>
    if isSpace c then tokensAfter before rest
    else match h : readToken c rest with
      | none => none
      | some (t, after) =>
        have := readToken_length h
        tokensAfter (t :: before) after
  termination_by cs.length

/-- The tokens of the text, if it consists of tokens and white space. -/
def tokens? (text : String) : Option (List Token) :=
  tokensAfter [] text.toList

end DashboardClient.Json
