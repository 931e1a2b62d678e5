import Mathlib.Data.List.Chain
import DashboardClient.Proofs.Json.Written

/-!
# The lexemes of JSON

How each token may be spelled, said without a reader: digits, the parts of a numeral, the characters
of a string, the words and the marks. A text spells its tokens by their lexemes with white space
before, between and after them. The reader finds these tokens, and no others.

Two numerals next to each other would read as one. No tree has such tokens, so the grammar can do
without a rule about where a lexeme has to end, and only the reader has to know it.
-/

namespace DashboardClient.Json

variable {cs rest after : List Char} {ts : List Token} {ds : List Nat}

-- ---------------------------------------------------------------------------
-- Numerals
-- ---------------------------------------------------------------------------

/-- The characters are the digits. -/
inductive AreDigits : List Nat → List Char → Prop
  | nil : AreDigits [] []
  | cons {c : Char} {ds : List Nat} {cs : List Char} (digit : c.isDigit = true)
      (digits : AreDigits ds cs) : AreDigits ((c.toNat - '0'.toNat) :: ds) (c :: cs)

/-- At least one digit. -/
def AreSomeDigits (ds : List Nat) (cs : List Char) : Prop :=
  AreDigits ds cs ∧ ds ≠ []

/-- A zero alone, or digits of which the first is none. -/
inductive IsWhole : List Nat → List Char → Prop
  | zero : IsWhole [0] ['0']
  | digits {c : Char} {ds : List Nat} {cs : List Char} (first : c ≠ '0')
      (digits : AreDigits ds (c :: cs)) : IsWhole ds (c :: cs)

/-- Nothing, or a point and digits. -/
inductive IsFraction : List Nat → List Char → Prop
  | absent : IsFraction [] []
  | point {ds : List Nat} {cs : List Char} (digits : AreSomeDigits ds cs) :
      IsFraction ds ('.' :: cs)

/-- The sign of an exponent may be left out, or written even if it is plus. -/
inductive IsExponentSign : Bool → List Char → Prop
  | absent : IsExponentSign false []
  | plus : IsExponentSign false ['+']
  | minus : IsExponentSign true ['-']

/-- Nothing, or the letter of an exponent, its sign and digits. -/
inductive IsExponent : Option Exponent → List Char → Prop
  | absent : IsExponent none []
  | letter {e : Char} {negative : Bool} {sign : List Char} {ds : List Nat} {cs : List Char}
      (isLetter : e = 'e' ∨ e = 'E') (signed : IsExponentSign negative sign)
      (digits : AreSomeDigits ds cs) : IsExponent (some ⟨negative, ds⟩) (e :: (sign ++ cs))

/-- The sign of a numeral is written only if it is minus. -/
def signText (negative : Bool) : List Char :=
  if negative then ['-'] else []

/-- The characters spell the numeral. -/
inductive Numeral.IsLexeme : Numeral → List Char → Prop
  | mk {negative : Bool} {whole fraction : List Nat} {exponent : Option Exponent}
      {w f e : List Char} (hwhole : IsWhole whole w) (hfraction : IsFraction fraction f)
      (hexponent : IsExponent exponent e) :
      IsLexeme ⟨negative, whole, fraction, exponent⟩ (signText negative ++ (w ++ (f ++ e)))

/-- What comes after a numeral does not continue it. -/
def EndsNumeral (cs : List Char) : Prop :=
  ∀ c ∈ cs.head?, c.isDigit = false ∧ c ≠ '.' ∧ c ≠ 'e' ∧ c ≠ 'E'

theorem AreDigits.of_readDigits (h : readDigits cs = (ds, after)) :
    ∃ lexeme, cs = lexeme ++ after ∧ AreDigits ds lexeme := by
  induction cs generalizing ds with
  | nil => cases h; exact ⟨[], rfl, .nil⟩
  | cons c rest ih =>
    rw [readDigits] at h
    split at h
    case isTrue digit =>
      cases h
      obtain ⟨lexeme, hrest, digits⟩ := ih rfl
      exact ⟨c :: lexeme, congrArg (c :: ·) hrest, .cons digit digits⟩
    case isFalse => cases h; exact ⟨[], rfl, .nil⟩

theorem readDigits_of_areDigits (h : AreDigits ds cs)
    (ends : ∀ c ∈ rest.head?, c.isDigit = false) : readDigits (cs ++ rest) = (ds, rest) := by
  induction h with
  | nil =>
    cases rest with
    | nil => rfl
    | cons c rest => simp [readDigits, ends c rfl]
  | cons digit _ ih => simp [readDigits, digit, ih]

theorem AreSomeDigits.of_readDigits1 (h : readDigits1 cs = some (ds, after)) :
    ∃ lexeme, cs = lexeme ++ after ∧ AreSomeDigits ds lexeme := by
  unfold readDigits1 at h
  split at h
  · cases h
  · next hne =>
    rw [Option.some.injEq] at h
    obtain ⟨lexeme, hcs, digits⟩ := AreDigits.of_readDigits h
    exact ⟨lexeme, hcs, digits, fun hnil => hne after (hnil ▸ h)⟩

theorem readDigits1_of_areSomeDigits (h : AreSomeDigits ds cs)
    (ends : ∀ c ∈ rest.head?, c.isDigit = false) : readDigits1 (cs ++ rest) = some (ds, rest) := by
  rw [readDigits1, readDigits_of_areDigits h.1 ends]
  cases ds with
  | nil => exact absurd rfl h.2
  | cons d ds => rfl

theorem IsWhole.of_readWhole (h : readWhole cs = some (ds, after)) :
    ∃ lexeme, cs = lexeme ++ after ∧ IsWhole ds lexeme := by
  unfold readWhole at h
  split at h
  · cases h; exact ⟨['0'], rfl, .zero⟩
  · next hne =>
    obtain ⟨lexeme, rfl, digits, hds⟩ := AreSomeDigits.of_readDigits1 h
    cases lexeme with
    | nil => cases digits; exact absurd rfl hds
    | cons c lexeme =>
      refine ⟨c :: lexeme, rfl, .digits ?_ digits⟩
      rintro rfl
      exact hne _ rfl

theorem readWhole_of_isWhole (h : IsWhole ds cs) (ends : ∀ c ∈ rest.head?, c.isDigit = false) :
    readWhole (cs ++ rest) = some (ds, rest) := by
  cases h with
  | zero => rfl
  | digits first digits =>
    have hsome : ds ≠ [] := by rintro rfl; cases digits
    rw [readWhole]
    · exact readDigits1_of_areSomeDigits ⟨digits, hsome⟩ ends
    · exact fun _ hc => first (List.cons_eq_cons.1 hc).1

theorem IsFraction.of_readFraction (h : readFraction cs = some (ds, after)) :
    ∃ lexeme, cs = lexeme ++ after ∧ IsFraction ds lexeme := by
  unfold readFraction at h
  split at h
  · obtain ⟨lexeme, rfl, digits⟩ := AreSomeDigits.of_readDigits1 h
    exact ⟨'.' :: lexeme, rfl, .point digits⟩
  · cases h; exact ⟨[], rfl, .absent⟩

theorem readFraction_of_isFraction (h : IsFraction ds cs)
    (ends : ∀ c ∈ rest.head?, c.isDigit = false ∧ c ≠ '.') :
    readFraction (cs ++ rest) = some (ds, rest) := by
  cases h with
  | absent =>
    rw [List.nil_append, readFraction]
    rintro r rfl
    exact (ends '.' rfl).2 rfl
  | point digits => exact readDigits1_of_areSomeDigits digits fun c hc => (ends c hc).1

theorem IsExponent.of_readExponent {e : Option Exponent} (h : readExponent cs = some (e, after)) :
    ∃ lexeme, cs = lexeme ++ after ∧ IsExponent e lexeme := by
  unfold readExponent at h
  split at h
  case h_2 => cases h; exact ⟨[], rfl, .absent⟩
  case h_1 c r =>
    split at h
    case isFalse => cases h; exact ⟨[], rfl, .absent⟩
    case isTrue isLetter =>
      obtain ⟨⟨ds, _⟩, hdigits, h⟩ := Option.map_eq_some_iff.1 h
      cases h
      split at hdigits
      case h_1 r =>
        obtain ⟨lexeme, rfl, digits⟩ := AreSomeDigits.of_readDigits1 hdigits
        exact ⟨c :: (['-'] ++ lexeme), rfl, .letter isLetter .minus digits⟩
      case h_2 r =>
        obtain ⟨lexeme, rfl, digits⟩ := AreSomeDigits.of_readDigits1 hdigits
        exact ⟨c :: (['+'] ++ lexeme), rfl, .letter isLetter .plus digits⟩
      case h_3 =>
        obtain ⟨lexeme, rfl, digits⟩ := AreSomeDigits.of_readDigits1 hdigits
        exact ⟨c :: ([] ++ lexeme), rfl, .letter isLetter .absent digits⟩

/-- Digits start with a digit, so with no sign. -/
theorem AreSomeDigits.exists_cons (h : AreSomeDigits ds cs) :
    ∃ c rest, cs = c :: rest ∧ c.isDigit = true := by
  obtain ⟨digits, hsome⟩ := h
  cases digits with
  | nil => exact absurd rfl hsome
  | cons digit _ => exact ⟨_, _, rfl, digit⟩

theorem readExponent_of_isExponent {e : Option Exponent} (h : IsExponent e cs)
    (ends : ∀ c ∈ rest.head?, c.isDigit = false ∧ c ≠ 'e' ∧ c ≠ 'E') :
    readExponent (cs ++ rest) = some (e, rest) := by
  cases h with
  | absent =>
    cases rest with
    | nil => rfl
    | cons c rest => simp [readExponent, (ends c rfl).2.1, (ends c rfl).2.2]
  | letter isLetter signed digits =>
    have hread := readDigits1_of_areSomeDigits digits fun c hc => (ends c hc).1
    cases signed with
    | plus => simp [readExponent, isLetter, hread]
    | minus => simp [readExponent, isLetter, hread]
    | absent =>
      obtain ⟨c, r, rfl, digit⟩ := digits.exists_cons
      have hminus : c ≠ '-' := by rintro rfl; cases digit
      have hplus : c ≠ '+' := by rintro rfl; cases digit
      simp only [List.nil_append, List.cons_append] at hread ⊢
      simp [readExponent, isLetter, hminus, hplus, hread]

theorem Numeral.IsLexeme.of_readNumeral {n : Numeral} (h : readNumeral cs = some (n, after)) :
    ∃ lexeme, cs = lexeme ++ after ∧ n.IsLexeme lexeme := by
  simp only [readNumeral, bind, Option.bind_eq_some_iff] at h
  obtain ⟨⟨whole, afterWhole⟩, hw, ⟨fraction, afterFraction⟩, hf, ⟨exponent, _⟩, he, h⟩ := h
  cases h
  obtain ⟨w, hw, hwhole⟩ := IsWhole.of_readWhole hw
  obtain ⟨f, hf, hfraction⟩ := IsFraction.of_readFraction hf
  obtain ⟨e, he, hexponent⟩ := IsExponent.of_readExponent he
  refine ⟨_, ?_, .mk hwhole hfraction hexponent⟩
  simp only at hf he
  rw [hf, he] at hw
  simp only [List.append_assoc, ← hw]
  split <;> rfl

/-- A whole part starts with a digit, so with no sign. -/
theorem IsWhole.exists_cons (h : IsWhole ds cs) : ∃ c rest, cs = c :: rest ∧ c.isDigit = true := by
  cases h with
  | zero => exact ⟨'0', [], rfl, rfl⟩
  | digits _ digits => cases digits with | cons digit _ => exact ⟨_, _, rfl, digit⟩

theorem IsFraction.head?_append (h : IsFraction ds cs) :
    ∀ c ∈ (cs ++ rest).head?, c = '.' ∨ c ∈ rest.head? := by
  cases h with
  | absent => exact fun c hc => .inr hc
  | point => rintro c ⟨⟩; exact .inl rfl

theorem IsExponent.head?_append {e : Option Exponent} (h : IsExponent e cs) :
    ∀ c ∈ (cs ++ rest).head?, (c = 'e' ∨ c = 'E') ∨ c ∈ rest.head? := by
  cases h with
  | absent => exact fun c hc => .inr hc
  | letter isLetter => rintro c ⟨⟩; exact .inl isLetter

theorem readNumeral_of_isLexeme {n : Numeral} (h : n.IsLexeme cs) (ends : EndsNumeral rest) :
    readNumeral (cs ++ rest) = some (n, rest) := by
  obtain @⟨negative, whole, fraction, exponent, w, f, e, hwhole, hfraction, hexponent⟩ := h
  have hexponentEnds : ∀ c ∈ (e ++ rest).head?, c.isDigit = false ∧ c ≠ '.' := by
    intro c hc
    rcases hexponent.head?_append c hc with (rfl | rfl) | hc
    · decide
    · decide
    · exact ⟨(ends c hc).1, (ends c hc).2.1⟩
  have hfractionEnds : ∀ c ∈ (f ++ (e ++ rest)).head?, c.isDigit = false := by
    intro c hc
    rcases hfraction.head?_append c hc with rfl | hc
    · rfl
    · exact (hexponentEnds c hc).1
  have hw := readWhole_of_isWhole hwhole hfractionEnds
  have hf := readFraction_of_isFraction hfraction hexponentEnds
  have he := readExponent_of_isExponent hexponent fun c hc => ⟨(ends c hc).1, (ends c hc).2.2⟩
  simp only [List.append_assoc]
  cases negative with
  | true => simp [readNumeral, signText, hw, hf, he]
  | false =>
    obtain ⟨c, r, rfl, digit⟩ := hwhole.exists_cons
    have hminus : c ≠ '-' := by rintro rfl; cases digit
    rw [List.cons_append] at hw
    simp [readNumeral, signText, hminus, hw, hf, he]


-- ---------------------------------------------------------------------------
-- Strings
-- ---------------------------------------------------------------------------

/-- The characters spell the piece of a string: a character stands for itself unless it is a quote,
a backslash or a control. -/
inductive Piece.IsLexeme : Piece → List Char → Prop
  | char {c : Char} (quote : c ≠ '"') (backslash : c ≠ '\\') (control : 0x20 ≤ c.toNat) :
      IsLexeme (.char c) [c]
  | escape {e c : Char} (escaped : escaped? e = some c) : IsLexeme (.char c) ['\\', e]
  | unit {a b c d : Char} {code : Nat} (hex : unitOfHex? a b c d = some code) :
      IsLexeme (.unit code) ['\\', 'u', a, b, c, d]

/-- The characters spell the pieces one after another. -/
inductive ArePieces : List Piece → List Char → Prop
  | nil : ArePieces [] []
  | cons {piece : Piece} {pieces : List Piece} {p ps : List Char} (first : piece.IsLexeme p)
      (others : ArePieces pieces ps) : ArePieces (piece :: pieces) (p ++ ps)

theorem readString_of_isLexeme {piece : Piece} (h : piece.IsLexeme cs) (rest : List Char) :
    readString (cs ++ rest) =
      (readString rest).map fun (pieces, after) => (piece :: pieces, after) := by
  cases h with
  | char quote backslash control =>
    exact readString_char quote backslash (Nat.not_lt.2 control) rest
  | escape escaped =>
    refine readString_escape ?_ escaped rest
    rintro rfl
    cases escaped
  | unit hex => exact readString_unit hex rest

theorem ArePieces.of_readString {pieces : List Piece} (h : readString cs = some (pieces, after)) :
    ∃ lexeme, cs = lexeme ++ '"' :: after ∧ ArePieces pieces lexeme := by
  fun_induction readString cs generalizing pieces with
  | case1 => cases h
  | case2 rest => cases h; exact ⟨[], rfl, .nil⟩
  | case3 a b c d rest ih =>
    simp only [bind, Option.bind_eq_some_iff] at h
    obtain ⟨code, hex, ⟨ps, r⟩, hr, h⟩ := h
    cases h
    obtain ⟨lexeme, rfl, others⟩ := ih hr
    exact ⟨['\\', 'u', a, b, c, d] ++ lexeme, rfl, .cons (.unit hex) others⟩
  | case4 e rest _ ih =>
    simp only [bind, Option.bind_eq_some_iff] at h
    obtain ⟨c, escaped, ⟨ps, r⟩, hr, h⟩ := h
    cases h
    obtain ⟨lexeme, rfl, others⟩ := ih hr
    exact ⟨['\\', e] ++ lexeme, rfl, .cons (.escape escaped) others⟩
  | case5 => cases h
  | case6 c rest quote _ backslash control ih =>
    simp only [bind, Option.bind_eq_some_iff] at h
    obtain ⟨⟨ps, r⟩, hr, h⟩ := h
    cases h
    obtain ⟨lexeme, rfl, others⟩ := ih hr
    -- A backslash at the end of the text has no closing quote behind it.
    have hbackslash : c ≠ '\\' := by
      rintro rfl
      cases lexeme <;> exact backslash _ _ rfl rfl
    exact ⟨[c] ++ lexeme, rfl, .cons (.char quote hbackslash (Nat.not_lt.1 control)) others⟩

theorem readString_of_arePieces {pieces : List Piece} (h : ArePieces pieces cs)
    (rest : List Char) : readString (cs ++ '"' :: rest) = some (pieces, rest) := by
  induction h with
  | nil => rw [List.nil_append, readString]
  | cons first _ ih => rw [List.append_assoc, readString_of_isLexeme first, ih, Option.map_some]

/-- No surrogate stands alone: the pieces are characters, code units of a character and pairs of
surrogates. -/
inductive NoLoneSurrogate : List Piece → Prop
  | nil : NoLoneSurrogate []
  | char {c : Char} {rest : List Piece} (others : NoLoneSurrogate rest) :
      NoLoneSurrogate (.char c :: rest)
  | unit {code : Nat} {rest : List Piece} (high : isHighSurrogate code = false)
      (low : isLowSurrogate code = false) (others : NoLoneSurrogate rest) :
      NoLoneSurrogate (.unit code :: rest)
  | pair {code code' : Nat} {rest : List Piece} (high : isHighSurrogate code = true)
      (low : isLowSurrogate code' = true) (others : NoLoneSurrogate rest) :
      NoLoneSurrogate (.unit code :: .unit code' :: rest)

theorem charsOfPieces?_unit_of_not_surrogate {code : Nat} (high : isHighSurrogate code = false)
    (low : isLowSurrogate code = false) (rest : List Piece) :
    charsOfPieces? (.unit code :: rest) = (charsOfPieces? rest).map (Char.ofNat code :: ·) := by
  match rest with
  | .unit _ :: _ => simp only [charsOfPieces?, high, low, Bool.false_eq_true, if_false]
  | [] => simp [charsOfPieces?, high, low]
  | .char _ :: _ => simp [charsOfPieces?, high, low]

/-- A string has a text exactly if no surrogate stands alone in it. -/
theorem isSome_textOfPieces?_iff (pieces : List Piece) :
    (textOfPieces? pieces).isSome = true ↔ NoLoneSurrogate pieces := by
  rw [textOfPieces?, Option.isSome_map]
  constructor
  · intro h
    fun_induction charsOfPieces? pieces with
    | case1 => exact .nil
    | case2 c rest ih => exact .char (ih (by simpa using h))
    | case3 high low rest hhigh hlow ih => exact .pair hhigh hlow (ih (by simpa using h))
    | case4 => cases h
    | case5 => cases h
    | case6 high low rest hhigh hlow ih =>
      exact .unit (by simpa using hhigh) (by simpa using hlow) (ih (by simpa using h))
    | case7 => cases h
    | case8 code rest _ hnone ih =>
      rw [Bool.or_eq_true, not_or, Bool.not_eq_true, Bool.not_eq_true] at hnone
      exact .unit hnone.1 hnone.2 (ih (by simpa using h))
  · intro h
    induction h with
    | nil => rfl
    | char _ ih => rw [charsOfPieces?, Option.isSome_map]; exact ih
    | unit high low _ ih =>
      rw [charsOfPieces?_unit_of_not_surrogate high low, Option.isSome_map]
      exact ih
    | pair high low _ ih => simpa [charsOfPieces?, high, low] using ih


-- ---------------------------------------------------------------------------
-- Tokens
-- ---------------------------------------------------------------------------

/-- The characters spell the token. -/
inductive Token.IsLexeme : Token → List Char → Prop
  | openBrace : IsLexeme .openBrace ['\x7b']
  | closeBrace : IsLexeme .closeBrace ['\x7d']
  | openBracket : IsLexeme .openBracket ['[']
  | closeBracket : IsLexeme .closeBracket [']']
  | colon : IsLexeme .colon [':']
  | comma : IsLexeme .comma [',']
  | null : IsLexeme .null ['n', 'u', 'l', 'l']
  | isTrue : IsLexeme (.bool true) ['t', 'r', 'u', 'e']
  | isFalse : IsLexeme (.bool false) ['f', 'a', 'l', 's', 'e']
  | string {pieces : List Piece} {cs : List Char} (spelled : ArePieces pieces cs) :
      IsLexeme (.string pieces) ('"' :: (cs ++ ['"']))
  | number {n : Numeral} {cs : List Char} (spelled : n.IsLexeme cs) : IsLexeme (.number n) cs

/-- The characters spell the tokens, with white space before, between and after them. -/
inductive AreLexemes : List Token → List Char → Prop
  | nil : AreLexemes [] []
  | space {ts : List Token} {c : Char} {cs : List Char} (isSpace : isSpace c = true)
      (others : AreLexemes ts cs) : AreLexemes ts (c :: cs)
  | token {t : Token} {ts : List Token} {lexeme cs : List Char} (first : t.IsLexeme lexeme)
      (others : AreLexemes ts cs) : AreLexemes (t :: ts) (lexeme ++ cs)

/-- The tokens that can only be told from what follows them if it does not continue them. -/
def Token.IsNumber (t : Token) : Prop :=
  ∃ n, t = .number n

theorem eq_append_of_afterWord {word : List Char} (h : afterWord word cs = some after) :
    cs = word ++ after := by
  fun_induction afterWord word cs with
  | case1 => cases h; rfl
  | case2 word w cs ih => rw [ih h, List.cons_append]
  | case3 => cases h
  | case4 => cases h

@[simp] theorem afterWord_append (word rest : List Char) :
    afterWord word (word ++ rest) = some rest := by
  induction word with
  | nil => rw [List.nil_append, afterWord]
  | cons w word ih => rw [List.cons_append, afterWord, if_pos rfl, ih]

theorem Token.IsLexeme.of_readToken {c : Char} {t : Token}
    (h : readToken c rest = some (t, after)) :
    ∃ lexeme, c :: rest = lexeme ++ after ∧ t.IsLexeme lexeme := by
  unfold readToken at h
  split at h
  case h_1 => cases h; exact ⟨_, rfl, .openBrace⟩
  case h_2 => cases h; exact ⟨_, rfl, .closeBrace⟩
  case h_3 => cases h; exact ⟨_, rfl, .openBracket⟩
  case h_4 => cases h; exact ⟨_, rfl, .closeBracket⟩
  case h_5 => cases h; exact ⟨_, rfl, .colon⟩
  case h_6 => cases h; exact ⟨_, rfl, .comma⟩
  case h_7 =>
    obtain ⟨⟨pieces, r⟩, hr, h⟩ := Option.map_eq_some_iff.1 h
    cases h
    obtain ⟨lexeme, rfl, spelled⟩ := ArePieces.of_readString hr
    exact ⟨'"' :: (lexeme ++ ['"']), by simp, .string spelled⟩
  case h_8 =>
    obtain ⟨r, hr, h⟩ := Option.map_eq_some_iff.1 h
    cases h
    exact ⟨_, congrArg ('n' :: ·) (eq_append_of_afterWord hr), .null⟩
  case h_9 =>
    obtain ⟨r, hr, h⟩ := Option.map_eq_some_iff.1 h
    cases h
    exact ⟨_, congrArg ('t' :: ·) (eq_append_of_afterWord hr), .isTrue⟩
  case h_10 =>
    obtain ⟨r, hr, h⟩ := Option.map_eq_some_iff.1 h
    cases h
    exact ⟨_, congrArg ('f' :: ·) (eq_append_of_afterWord hr), .isFalse⟩
  case h_11 =>
    obtain ⟨⟨n, r⟩, hr, h⟩ := Option.map_eq_some_iff.1 h
    cases h
    obtain ⟨lexeme, hcs, spelled⟩ := Numeral.IsLexeme.of_readNumeral hr
    exact ⟨lexeme, hcs, .number spelled⟩

/-- A numeral starts with its sign or with a digit. -/
theorem Numeral.IsLexeme.exists_cons {n : Numeral} (h : n.IsLexeme cs) :
    ∃ c r, cs = c :: r ∧ (c = '-' ∨ c.isDigit = true) := by
  obtain @⟨negative, whole, fraction, exponent, w, f, e, hwhole, -, -⟩ := h
  cases negative with
  | true => exact ⟨'-', _, rfl, .inl rfl⟩
  | false =>
    obtain ⟨c, r, rfl, digit⟩ := hwhole.exists_cons
    exact ⟨c, _, rfl, .inr digit⟩

theorem readToken_number {c : Char} (h : c = '-' ∨ c.isDigit = true) :
    readToken c rest = (readNumeral (c :: rest)).map fun (n, after) => (.number n, after) := by
  unfold readToken
  split
  case h_11 => rfl
  all_goals exact absurd h (by decide)

theorem isSpace_number {c : Char} (h : c = '-' ∨ c.isDigit = true) : isSpace c = false := by
  by_contra hspace
  simp only [isSpace, Bool.not_eq_false, Bool.or_eq_true, beq_iff_eq] at hspace
  rcases hspace with ((rfl | rfl) | rfl) | rfl <;> exact absurd h (by decide)

/-- The reader finds each token where its lexeme stands. -/
theorem readToken_of_isLexeme {t : Token} (h : t.IsLexeme cs)
    (ends : t.IsNumber → EndsNumeral rest) :
    ∃ c r, cs = c :: r ∧ isSpace c = false ∧ readToken c (r ++ rest) = some (t, rest) := by
  cases h with
  | openBrace => exact ⟨_, _, rfl, rfl, rfl⟩
  | closeBrace => exact ⟨_, _, rfl, rfl, rfl⟩
  | openBracket => exact ⟨_, _, rfl, rfl, rfl⟩
  | closeBracket => exact ⟨_, _, rfl, rfl, rfl⟩
  | colon => exact ⟨_, _, rfl, rfl, rfl⟩
  | comma => exact ⟨_, _, rfl, rfl, rfl⟩
  | null => exact ⟨_, _, rfl, rfl, by simp only [readToken, afterWord_append, Option.map_some]⟩
  | isTrue => exact ⟨_, _, rfl, rfl, by simp only [readToken, afterWord_append, Option.map_some]⟩
  | isFalse => exact ⟨_, _, rfl, rfl, by simp only [readToken, afterWord_append, Option.map_some]⟩
  | string spelled =>
    refine ⟨_, _, rfl, rfl, ?_⟩
    rw [List.append_assoc]
    simp only [readToken, List.singleton_append, readString_of_arePieces spelled, Option.map_some]
  | @number n _ spelled =>
    obtain ⟨c, r, rfl, hc⟩ := spelled.exists_cons
    refine ⟨c, r, rfl, isSpace_number hc, ?_⟩
    rw [readToken_number hc, ← List.cons_append, readNumeral_of_isLexeme spelled (ends ⟨n, rfl⟩),
      Option.map_some]


-- ---------------------------------------------------------------------------
-- Texts
-- ---------------------------------------------------------------------------

/-- What the reader finds is spelled by what it has read. -/
theorem AreLexemes.of_tokensAfter {before : List Token} (h : tokensAfter before cs = some ts) :
    ∃ more, ts = before.reverse ++ more ∧ AreLexemes more cs := by
  fun_induction tokensAfter before cs with
  | case1 before => cases h; exact ⟨[], by simp, .nil⟩
  | case2 before c rest isSpace ih =>
    obtain ⟨more, rfl, others⟩ := ih h
    exact ⟨more, rfl, .space isSpace others⟩
  | case3 => cases h
  | case4 before c rest _ t after hread _ ih =>
    obtain ⟨more, rfl, others⟩ := ih h
    obtain ⟨lexeme, hcs, first⟩ := Token.IsLexeme.of_readToken hread
    exact ⟨t :: more, by simp, hcs ▸ .token first others⟩

/-- No two numerals next to each other. -/
def AreApart (ts : List Token) : Prop :=
  ts.IsChain fun t t' => t.IsNumber → ¬t'.IsNumber

/-- Before a token that is no numeral, and at the end of a text, a numeral ends. -/
theorem AreLexemes.endsNumeral (h : AreLexemes ts cs) (first : ∀ t ∈ ts.head?, ¬t.IsNumber)
    (ends : ts = [] → EndsNumeral rest) : EndsNumeral (cs ++ rest) := by
  cases h with
  | nil => exact ends rfl
  | space isSpace =>
    rintro c ⟨⟩
    simp only [Json.isSpace, Bool.or_eq_true, beq_iff_eq] at isSpace
    rcases isSpace with ((rfl | rfl) | rfl) | rfl <;> decide
  | @token t _ _ _ lexeme =>
    have hnumber := first t rfl
    cases lexeme with
    | number => exact absurd ⟨_, rfl⟩ hnumber
    | _ => rintro c ⟨⟩; decide

/-- The reader finds every token that is spelled, whatever follows that does not continue the
last one. -/
theorem tokensAfter_of_areLexemes (h : AreLexemes ts cs) (apart : AreApart ts)
    (ends : (∃ t ∈ ts.getLast?, t.IsNumber) → EndsNumeral rest) (before : List Token) :
    tokensAfter before (cs ++ rest) = tokensAfter (ts.reverse ++ before) rest := by
  induction h generalizing before with
  | nil => rfl
  | space isSpace _ ih => rw [List.cons_append, tokensAfter, if_pos isSpace, ih apart ends]
  | @token t ts lexeme cs first others ih =>
    obtain ⟨hhead, htail⟩ := List.isChain_cons.1 apart
    have hends : t.IsNumber → EndsNumeral (cs ++ rest) := by
      intro hnumber
      refine others.endsNumeral (fun t' ht' => hhead t' ht' hnumber) ?_
      rintro rfl
      exact ends ⟨t, rfl, hnumber⟩
    have hlast : (∃ t ∈ ts.getLast?, t.IsNumber) → EndsNumeral rest := by
      rintro ⟨t', ht', hnumber⟩
      exact ends ⟨t', List.mem_getLast?_cons ht', hnumber⟩
    obtain ⟨c, r, rfl, hspace, hread⟩ := readToken_of_isLexeme first hends
    rw [List.append_assoc, List.cons_append, tokensAfter, hspace, if_neg Bool.false_ne_true]
    split
    case h_1 hnone => rw [hread] at hnone; cases hnone
    case h_2 hsome =>
      rw [hread] at hsome
      cases hsome
      rw [ih htail hlast, List.reverse_cons, List.append_assoc, List.singleton_append]

/-- A text is read as the tokens that it spells, if they stand apart. -/
theorem tokens?_of_areLexemes {text : String} (h : AreLexemes ts text.toList)
    (apart : AreApart ts) : tokens? text = some ts := by
  have hends : EndsNumeral [] := nofun
  have hread := tokensAfter_of_areLexemes h apart (fun _ => hends) []
  rwa [List.append_nil, List.append_nil, tokensAfter, List.reverse_reverse] at hread

theorem AreLexemes.of_tokens? {text : String} (h : tokens? text = some ts) :
    AreLexemes ts text.toList := by
  obtain ⟨more, rfl, spelled⟩ := of_tokensAfter h
  exact spelled

theorem AreLexemes.isSpace_of_nil (h : AreLexemes [] cs) : ∀ c ∈ cs, isSpace c = true := by
  generalize hts : ([] : List Token) = ts at h
  induction h with
  | nil => simp
  | space isSpace _ ih => exact List.forall_mem_cons.2 ⟨isSpace, ih hts⟩
  | token => cases hts

/-- Numerals, and no other tokens, start with a sign or a digit. -/
theorem Token.IsLexeme.exists_cons {t : Token} (h : t.IsLexeme cs) :
    ∃ c r, cs = c :: r ∧ isSpace c = false ∧ (t.IsNumber ↔ c = '-' ∨ c.isDigit = true) := by
  cases h with
  | number spelled =>
    obtain ⟨c, r, rfl, hc⟩ := spelled.exists_cons
    exact ⟨c, r, rfl, isSpace_number hc, iff_of_true ⟨_, rfl⟩ hc⟩
  | _ => exact ⟨_, _, rfl, rfl, iff_of_false nofun (by decide)⟩

/-- The first character that is no white space tells whether the first token is a numeral. -/
theorem AreLexemes.find?_eq {t : Token} (h : AreLexemes (t :: ts) cs) :
    ∃ c, cs.find? (!isSpace ·) = some c ∧ (t.IsNumber ↔ c = '-' ∨ c.isDigit = true) := by
  generalize hts : t :: ts = tokens at h
  induction h with
  | nil => cases hts
  | space isSpace _ ih =>
    obtain ⟨c, hfind, hc⟩ := ih hts
    exact ⟨c, by simp [isSpace, hfind], hc⟩
  | token first _ _ =>
    cases hts
    obtain ⟨c, r, rfl, hspace, hc⟩ := first.exists_cons
    exact ⟨c, by simp [hspace], hc⟩

end DashboardClient.Json
