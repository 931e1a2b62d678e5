import Mathlib.Data.List.Basic
import DashboardClient.Json.Node
import DashboardClient.Json.Quoted

/-!
# Written JSON, read back

What the reader makes of text that the writer wrote: of a string character by
character, of a piece of text token by token whatever follows it, and of an object of
strings member by member.
-/

namespace DashboardClient.Json

-- ---------------------------------------------------------------------------
-- Strings
-- ---------------------------------------------------------------------------

/-- The piece that a written character is read as: a code unit if it is written in
hexadecimal digits. -/
def writtenPiece (c : Char) : Piece :=
  match c with
  | '\x08' | '\x0c' | '\n' | '\r' | '\t' => .char c
  | c => if c.toNat < 0x20 then .unit c.toNat else .char c

theorem unitOfHex?_digitChar {n : Nat} (h : n < 0x20) :
    unitOfHex? '0' '0' (Nat.digitChar (n / 16)) (Nat.digitChar (n % 16)) = some n := by
  have hall : ∀ m < 0x20,
      unitOfHex? '0' '0' (Nat.digitChar (m / 16)) (Nat.digitChar (m % 16)) = some m := by decide
  exact hall n h

/-- A character that is written as itself is neither a quote nor a backslash nor a
control. -/
theorem readString_char {c : Char} (hq : c ≠ '"') (hb : c ≠ '\\') (hc : ¬c.toNat < 0x20)
    (rest : List Char) :
    readString (c :: rest) =
      (readString rest).map fun (pieces, after) => (.char c :: pieces, after) := by
  rw [readString, if_neg hc]
  · cases readString rest <;> rfl
  · exact hq
  · exact fun _ _ _ _ _ h _ => hb h
  · exact fun _ _ h _ => hb h

theorem readString_escape {e c : Char} (hu : e ≠ 'u') (he : escaped? e = some c)
    (rest : List Char) :
    readString ('\\' :: e :: rest) =
      (readString rest).map fun (pieces, after) => (.char c :: pieces, after) := by
  rw [readString, he]
  · cases readString rest <;> rfl
  · exact fun _ _ _ _ _ h _ => hu h

theorem readString_unit {a b c d : Char} {code : Nat} (h : unitOfHex? a b c d = some code)
    (rest : List Char) :
    readString ('\\' :: 'u' :: a :: b :: c :: d :: rest) =
      (readString rest).map fun (pieces, after) => (.unit code :: pieces, after) := by
  rw [readString, h]
  cases readString rest <;> rfl

/-- A written character is read as one piece, whatever follows it. -/
theorem readString_writtenChar (c : Char) (rest : List Char) :
    readString (writtenChar c ++ rest) =
      (readString rest).map fun (pieces, after) => (writtenPiece c :: pieces, after) := by
  unfold writtenChar
  split
  case h_8 hq hb h8 hf hn hr ht =>
    have hp : writtenPiece c = if c.toNat < 0x20 then .unit c.toNat else .char c := by
      unfold writtenPiece
      split <;> first | contradiction | rfl
    rw [hp]
    split
    case isTrue hc => exact readString_unit (unitOfHex?_digitChar hc) rest
    case isFalse hc => exact readString_char hq hb hc rest
  all_goals exact readString_escape (by decide) rfl rest

/-- Reading a written string stops at its own closing quote. -/
theorem readString_written (cs rest : List Char) :
    readString (cs.flatMap writtenChar ++ '"' :: rest) = some (cs.map writtenPiece, rest) := by
  induction cs with
  | nil => rfl
  | cons c cs ih =>
    simp only [List.flatMap_cons, List.append_assoc, readString_writtenChar, ih, Option.map_some,
      List.map_cons]

theorem charsOfPieces?_char (c : Char) (rest : List Piece) :
    charsOfPieces? (.char c :: rest) = (charsOfPieces? rest).map (c :: ·) := by
  rw [charsOfPieces?]

/-- A code unit below the surrogates is a character by itself. -/
theorem charsOfPieces?_unit {code : Nat} (h : code < 0xD800) (rest : List Piece) :
    charsOfPieces? (.unit code :: rest) = (charsOfPieces? rest).map (Char.ofNat code :: ·) := by
  have hhigh : isHighSurrogate code = false := by simp [isHighSurrogate]; omega
  have hlow : isLowSurrogate code = false := by simp [isLowSurrogate]; omega
  match rest with
  | .unit low :: rest => simp only [charsOfPieces?, hhigh, hlow, Bool.false_eq_true, if_false]
  | [] => simp only [charsOfPieces?, hhigh, hlow]; rfl
  | .char c :: rest => simp only [charsOfPieces?, hhigh, hlow]; rfl

theorem charsOfPieces?_writtenPiece (c : Char) (rest : List Piece) :
    charsOfPieces? (writtenPiece c :: rest) = (charsOfPieces? rest).map (c :: ·) := by
  unfold writtenPiece
  split
  case h_6 =>
    split
    case isTrue hc => rw [charsOfPieces?_unit (by omega), Char.ofNat_toNat]
    case isFalse => exact charsOfPieces?_char c rest
  all_goals exact charsOfPieces?_char _ rest

theorem charsOfPieces?_map_writtenPiece (cs : List Char) :
    charsOfPieces? (cs.map writtenPiece) = some cs := by
  induction cs with
  | nil => rfl
  | cons c cs ih => rw [List.map_cons, charsOfPieces?_writtenPiece, ih, Option.map_some]

/-- The pieces of a text as it is written. -/
def writtenPieces (s : String) : List Piece :=
  s.toList.map writtenPiece

/-- Every text is read back as it was. -/
@[simp] theorem textOfPieces?_writtenPieces (s : String) :
    textOfPieces? (writtenPieces s) = some s := by
  simp [textOfPieces?, writtenPieces, charsOfPieces?_map_writtenPiece]


-- ---------------------------------------------------------------------------
-- Tokens
-- ---------------------------------------------------------------------------

/-- The characters are read as the tokens, whatever comes before and after them. -/
def Spells (cs : List Char) (ts : List Token) : Prop :=
  ∀ before rest, tokensAfter before (cs ++ rest) = tokensAfter (ts.reverse ++ before) rest

theorem tokens?_of_spells {text : String} {ts : List Token} (h : Spells text.toList ts) :
    tokens? text = some ts := by
  have ht := h [] []
  rw [List.append_nil, List.append_nil] at ht
  rw [tokens?, ht, tokensAfter, List.reverse_reverse]

namespace Spells

theorem nil : Spells [] [] := fun _ _ => rfl

theorem append {cs cs' : List Char} {ts ts' : List Token} (h : Spells cs ts)
    (h' : Spells cs' ts') : Spells (cs ++ cs') (ts ++ ts') := by
  intro before rest
  rw [List.append_assoc, h, h', List.reverse_append, List.append_assoc]

/-- White space spells nothing. -/
theorem space {cs : List Char} (h : ∀ c ∈ cs, isSpace c = true) : Spells cs [] := by
  intro before rest
  induction cs with
  | nil => rfl
  | cons c cs ih =>
    rw [List.forall_mem_cons] at h
    rw [List.cons_append, tokensAfter, if_pos h.1]
    exact ih h.2

/-- What `readToken` reads in front of any text is one token. -/
theorem token {c : Char} {cs : List Char} {t : Token} (hc : isSpace c = false)
    (h : ∀ rest, readToken c (cs ++ rest) = some (t, rest)) : Spells (c :: cs) [t] := by
  intro before rest
  rw [List.cons_append, tokensAfter, hc, if_neg Bool.false_ne_true]
  split
  case h_1 hn => rw [h] at hn; cases hn
  case h_2 ht => rw [h] at ht; cases ht; rfl

theorem openBrace : Spells ['\x7b'] [.openBrace] := token rfl fun _ => rfl

theorem closeBrace : Spells ['\x7d'] [.closeBrace] := token rfl fun _ => rfl

theorem colon : Spells [':'] [.colon] := token rfl fun _ => rfl

theorem comma : Spells [','] [.comma] := token rfl fun _ => rfl

/-- A written string is one token. -/
theorem writtenString (s : String) :
    Spells (writtenString s).toList [.string (writtenPieces s)] := by
  rw [Json.writtenString, String.toList_ofList, List.cons_append]
  refine token rfl fun rest => ?_
  rw [List.append_assoc]
  simp only [readToken, List.singleton_append, readString_written, Option.map_some, writtenPieces]

/-- Parts with commas between them spell their tokens with commas between them. -/
theorem intercalate {parts : List (List Char × List Token)} (h : ∀ p ∈ parts, Spells p.1 p.2) :
    Spells ([','].intercalate (parts.map Prod.fst))
      ([Token.comma].intercalate (parts.map Prod.snd)) := by
  induction parts with
  | nil => exact nil
  | cons p ps ih =>
    rw [List.forall_mem_cons] at h
    cases ps with
    | nil => simpa using h.1
    | cons q qs =>
      simp only [List.map_cons, List.intercalate_cons_cons]
      exact (h.1.append comma).append (ih h.2)

end Spells


-- ---------------------------------------------------------------------------
-- Objects of strings
-- ---------------------------------------------------------------------------

/-- The tokens of one member whose value is a string. -/
def memberTokens (member : List Piece × List Piece) : List Token :=
  [.string member.1, .colon, .string member.2]

/-- The tree of one member whose value is a string. -/
def memberNode (member : List Piece × List Piece) : List Piece × Node :=
  (member.1, .string member.2)

namespace Cursor

theorem foldlM_member (member : List Piece × List Piece) (before : List (List Piece × Node))
    (outer : List Frame) (rest : List Token) :
    (memberTokens member ++ rest).foldlM move (key before outer) =
      rest.foldlM move (after (.string member.2) (.member before member.1 :: outer)) :=
  rfl

/-- Moving over members and the closing brace completes the object. -/
theorem foldlM_members (member : List Piece × List Piece)
    (members : List (List Piece × List Piece)) (before : List (List Piece × Node))
    (outer : List Frame) :
    ([Token.comma].intercalate ((member :: members).map memberTokens) ++
        [Token.closeBrace]).foldlM move (key before outer) =
      some (after (.object (before.reverse ++ (member :: members).map memberNode)) outer) := by
  induction members generalizing member before with
  | nil =>
    rw [List.map_singleton, List.intercalate_singleton, foldlM_member]
    simp [move, memberNode]
  | cons next members ih =>
    simp only [List.map_cons, List.intercalate_cons_cons, List.append_assoc, foldlM_member]
    rw [← List.map_cons]
    refine (ih next (memberNode member :: before)).trans ?_
    simp

end Cursor

/-- The tokens of an object of strings spell it. -/
theorem Node.ofTokens?_members (members : List (List Piece × List Piece)) :
    ofTokens? (.openBrace :: ([Token.comma].intercalate (members.map memberTokens) ++
        [Token.closeBrace])) = some (.object (members.map memberNode)) := by
  cases members with
  | nil => rfl
  | cons member members =>
    -- After the brace a first member is read as a later one would be.
    have hfirst : ofTokens? (.openBrace :: ([Token.comma].intercalate
        ((member :: members).map memberTokens) ++ [Token.closeBrace])) =
        (([Token.comma].intercalate ((member :: members).map memberTokens) ++
          [Token.closeBrace]).foldlM Cursor.move (.key [] [])).bind Cursor.result? := by
      cases members <;> rfl
    rw [hfirst, Cursor.foldlM_members]
    rfl

end DashboardClient.Json
