import DashboardClient.Proofs.Json.Lexemes

/-!
# The trees of JSON

The grammar of JSON on tokens is a function: the tokens of a tree. A text is one of the tree if it
spells its tokens. What the cursor has moved over so far are the tokens of what it holds, so it
reads a tree exactly from its own tokens. Every value ends where its last token does, whether it is
wanted or not.
-/

namespace DashboardClient.Json

variable {ts : List Token} {outer : List Frame} {c c' : Cursor} {node : Node} {text : String}

-- ---------------------------------------------------------------------------
-- The tokens of a tree
-- ---------------------------------------------------------------------------

mutual

/-- The tokens that spell the tree. -/
def Node.tokens : Node → List Token
  | .null => [.null]
  | .bool b => [.bool b]
  | .number n => [.number n]
  | .string pieces => [.string pieces]
  | .array items => .openBracket :: (itemTokens items ++ [.closeBracket])
  | .object members => .openBrace :: (objectTokens members ++ [.closeBrace])

/-- Items with commas between them. -/
def itemTokens : List Node → List Token
  | [] => []
  | [item] => item.tokens
  | item :: next :: items => item.tokens ++ .comma :: itemTokens (next :: items)

/-- Members with commas between them. -/
def objectTokens : List (List Piece × Node) → List Token
  | [] => []
  | [(key, value)] => .string key :: .colon :: value.tokens
  | (key, value) :: next :: members =>
    .string key :: .colon :: (value.tokens ++ .comma :: objectTokens (next :: members))

end

/-- The text is one JSON text: that of the tree. -/
def IsText (text : String) (node : Node) : Prop :=
  AreLexemes node.tokens text.toList

theorem Node.tokens_eq_cons (node : Node) :
    ∃ t rest, node.tokens = t :: rest ∧ t ≠ .closeBracket := by
  cases node <;> exact ⟨_, _, rfl, nofun⟩

theorem Node.eq_number_of_head {t : Token} (node : Node) (h : node.tokens = t :: ts)
    (number : t.IsNumber) : ∃ n, node = .number n := by
  obtain ⟨n, rfl⟩ := number
  cases node <;> cases h
  exact ⟨n, rfl⟩

theorem Node.eq_number_of_getLast? (node : Node)
    (number : ∃ t ∈ node.tokens.getLast?, t.IsNumber) : ∃ n, node = .number n := by
  obtain ⟨_, ht, n, rfl⟩ := number
  cases node <;> simp [tokens, List.getLast?_cons] at ht
  exact ⟨n, ht ▸ rfl⟩

/-- No item starts where an array ends. -/
theorem itemTokens_eq_cons (item : Node) (items : List Node) :
    ∃ t rest, itemTokens (item :: items) = t :: rest ∧ t ≠ .closeBracket := by
  obtain ⟨t, rest, hitem, ht⟩ := item.tokens_eq_cons
  cases items with
  | nil => exact ⟨t, rest, by rw [itemTokens, hitem], ht⟩
  | cons => exact ⟨t, _, by rw [itemTokens, hitem, List.cons_append], ht⟩

/-- All but the last item with the commas behind them. -/
def leadingItemTokens (items : List Node) : List Token :=
  items.flatMap fun item => item.tokens ++ [.comma]

/-- All but the last member with the commas behind them. -/
def leadingMemberTokens (members : List (List Piece × Node)) : List Token :=
  members.flatMap fun (key, value) => .string key :: .colon :: (value.tokens ++ [.comma])

theorem itemTokens_concat (items : List Node) (item : Node) :
    itemTokens (items ++ [item]) = leadingItemTokens items ++ item.tokens := by
  induction items with
  | nil => rw [List.nil_append, itemTokens]; rfl
  | cons first items ih =>
    have hcons : itemTokens (first :: (items ++ [item])) =
        first.tokens ++ .comma :: itemTokens (items ++ [item]) := by
      cases items <;> rfl
    rw [List.cons_append, hcons, ih]
    simp [leadingItemTokens]

theorem objectTokens_concat (members : List (List Piece × Node)) (key : List Piece)
    (value : Node) : objectTokens (members ++ [(key, value)]) =
      leadingMemberTokens members ++ .string key :: .colon :: value.tokens := by
  induction members with
  | nil => rw [List.nil_append, objectTokens]; rfl
  | cons first members ih =>
    have hcons : objectTokens (first :: (members ++ [(key, value)])) = .string first.1 :: .colon ::
        (first.2.tokens ++ .comma :: objectTokens (members ++ [(key, value)])) := by
      cases members <;> rfl
    rw [List.cons_append, hcons, ih]
    simp [leadingMemberTokens]


-- ---------------------------------------------------------------------------
-- What is read are the tokens of a tree
-- ---------------------------------------------------------------------------

/-- The tokens of an open container up to where it goes on. -/
def Frame.tokens : Frame → List Token
  | .items before => .openBracket :: leadingItemTokens before.reverse
  | .member before key =>
    .openBrace :: (leadingMemberTokens before.reverse ++ [.string key, .colon])

/-- The tokens of the open containers, of which the innermost stands first. -/
def outerTokens (outer : List Frame) : List Token :=
  outer.reverse.flatMap Frame.tokens

@[simp] theorem outerTokens_nil : outerTokens [] = [] := rfl

@[simp] theorem outerTokens_cons (frame : Frame) (outer : List Frame) :
    outerTokens (frame :: outer) = outerTokens outer ++ frame.tokens := by
  simp [outerTokens]

namespace Cursor

/-- The tokens that lie behind the cursor. -/
def tokens : Cursor → List Token
  | .value outer => outerTokens outer
  | .firstItem outer => outerTokens outer ++ [.openBracket]
  | .firstKey outer => outerTokens outer ++ [.openBrace]
  | .key before outer => outerTokens outer ++ .openBrace :: leadingMemberTokens before.reverse
  | .colon before k outer =>
    outerTokens outer ++ .openBrace :: (leadingMemberTokens before.reverse ++ [.string k])
  | .after node outer => outerTokens outer ++ node.tokens

theorem tokens_startValue {t : Token} (h : startValue outer t = some c) :
    c.tokens = outerTokens outer ++ [t] := by
  cases t <;> cases h <;> simp only [tokens, Node.tokens]

/-- The cursor leaves behind each token that it moves over. -/
theorem tokens_move {t : Token} (h : move c t = some c') : c'.tokens = c.tokens ++ [t] := by
  unfold move at h
  split at h
  case h_1 => rw [tokens_startValue h, tokens]
  case h_2 => cases h; simp [tokens, Node.tokens, itemTokens]
  case h_3 => rw [tokens_startValue h]; simp [tokens, Frame.tokens, leadingItemTokens]
  case h_4 => cases h; simp [tokens, Node.tokens, objectTokens]
  case h_5 => cases h; simp [tokens, leadingMemberTokens]
  case h_6 => cases h; simp [tokens]
  case h_7 => cases h; simp [tokens, Frame.tokens]
  case h_8 => cases h; simp [tokens, Frame.tokens, leadingItemTokens]
  case h_9 => cases h; simp [tokens, Frame.tokens, Node.tokens, itemTokens_concat]
  case h_10 => cases h; simp [tokens, Frame.tokens, leadingMemberTokens]
  case h_11 => cases h; simp [tokens, Frame.tokens, Node.tokens, objectTokens_concat]
  case h_12 => cases h

theorem tokens_foldlM (h : ts.foldlM move c = some c') : c'.tokens = c.tokens ++ ts := by
  induction ts generalizing c with
  | nil => cases h; rw [List.append_nil]
  | cons t ts ih =>
    rw [List.foldlM_cons, Option.bind_eq_bind, Option.bind_eq_some_iff] at h
    obtain ⟨next, hmove, h⟩ := h
    rw [ih h, tokens_move hmove, List.append_assoc, List.singleton_append]

/-- After a value that stands alone, no token can follow. -/
theorem foldlM_after_nil (h : ts.foldlM move (after node []) = some c) : ts = [] := by
  cases ts with
  | nil => rfl
  | cons t ts => cases h

end Cursor

/-- The tokens that are read are those of the tree. -/
theorem Node.tokens_of_ofTokens? (h : ofTokens? ts = some node) : node.tokens = ts := by
  obtain ⟨c, hfold, hresult⟩ := Option.bind_eq_some_iff.1 h
  have htokens := Cursor.tokens_foldlM hfold
  unfold Cursor.result? at hresult
  split at hresult
  · cases hresult
    simpa [Cursor.tokens] using htokens
  · cases hresult


-- ---------------------------------------------------------------------------
-- The tokens of a tree are read
-- ---------------------------------------------------------------------------

namespace Cursor

/-- Where an array does not end, its first item is read as any value is. -/
theorem foldlM_firstItem {t : Token} (h : t ≠ .closeBracket) (ts : List Token) :
    (t :: ts).foldlM move (firstItem outer) =
      (t :: ts).foldlM move (value (.items [] :: outer)) := by
  have hmove : move (firstItem outer) t = move (value (.items [] :: outer)) t := by
    cases t <;> first | rfl | exact absurd rfl h
  rw [List.foldlM_cons, List.foldlM_cons, hmove]

mutual

/-- The tokens of a tree lead from where a value starts to behind this tree. -/
theorem foldlM_tokens (node : Node) (outer : List Frame) :
    node.tokens.foldlM move (value outer) = some (after node outer) := by
  match node with
  | .null => rfl
  | .bool _ => rfl
  | .number _ => rfl
  | .string _ => rfl
  | .array [] => rfl
  | .array (item :: items) =>
    have hitems := foldlM_itemTokens item items [] outer
    obtain ⟨t, rest, htokens, ht⟩ := itemTokens_eq_cons item items
    rw [htokens] at hitems
    rw [Node.tokens, htokens]
    exact (foldlM_firstItem ht _).trans hitems
  | .object [] => rfl
  | .object ((k, v) :: members) =>
    have hmembers := foldlM_objectTokens k v members [] outer
    rw [Node.tokens]
    cases members <;> exact hmembers
termination_by sizeOf node

theorem foldlM_itemTokens (item : Node) (items before : List Node) (outer : List Frame) :
    (itemTokens (item :: items) ++ [Token.closeBracket]).foldlM move
        (value (.items before :: outer)) =
      some (after (.array (before.reverse ++ item :: items)) outer) := by
  match items with
  | [] =>
    rw [itemTokens, List.foldlM_append, foldlM_tokens item]
    simp [move]
  | next :: items =>
    rw [itemTokens, List.append_assoc, List.foldlM_append, foldlM_tokens item]
    have hrest := foldlM_itemTokens next items (item :: before) outer
    simpa [move] using hrest
termination_by sizeOf (item :: items)

theorem foldlM_objectTokens (k : List Piece) (v : Node) (members before : List (List Piece × Node))
    (outer : List Frame) :
    (objectTokens ((k, v) :: members) ++ [Token.closeBrace]).foldlM move (key before outer) =
      some (after (.object (before.reverse ++ (k, v) :: members)) outer) := by
  match members with
  | [] =>
    have hvalue := foldlM_tokens v (.member before k :: outer)
    simp [objectTokens, move, hvalue]
  | (k', v') :: members =>
    have hvalue := foldlM_tokens v (.member before k :: outer)
    have hrest := foldlM_objectTokens k' v' members ((k, v) :: before) outer
    rw [objectTokens, List.cons_append, List.cons_append, List.append_assoc, List.foldlM_cons]
    simpa [move, hvalue] using hrest
termination_by sizeOf ((k, v) :: members)

end

/-- Behind a value there is no place for a numeral. -/
theorem move_after_number {t : Token} (number : t.IsNumber) :
    move (after node outer) t = none := by
  obtain ⟨n, rfl⟩ := number
  match outer with
  | [] => rfl
  | .items _ :: _ => rfl
  | .member _ _ :: _ => rfl

/-- A numeral is a value by itself. -/
theorem move_number {t : Token} (number : t.IsNumber) (h : move c t = some c') :
    ∃ node outer, c' = after node outer := by
  cases c with
  | after => rw [move_after_number number] at h; cases h
  | _ => obtain ⟨n, rfl⟩ := number; cases h <;> exact ⟨_, _, rfl⟩

/-- The cursor moves over no two numerals in a row. -/
theorem areApart_of_foldlM (h : ts.foldlM move c = some c') : AreApart ts := by
  induction ts generalizing c with
  | nil => exact .nil
  | cons t ts ih =>
    rw [List.foldlM_cons, Option.bind_eq_bind, Option.bind_eq_some_iff] at h
    obtain ⟨next, hmove, h⟩ := h
    refine List.isChain_cons.2 ⟨fun t' ht' number number' => ?_, ih h⟩
    obtain ⟨node, outer, rfl⟩ := move_number number hmove
    obtain ⟨rest, rfl⟩ := List.head?_eq_some_iff.1 ht'
    rw [List.foldlM_cons, move_after_number number'] at h
    cases h

end Cursor

theorem Node.ofTokens?_eq_some_iff : ofTokens? ts = some node ↔ ts = node.tokens := by
  constructor
  · exact fun h => (tokens_of_ofTokens? h).symm
  · rintro rfl
    rw [ofTokens?, Cursor.foldlM_tokens]
    rfl

theorem Node.areApart_tokens (node : Node) : AreApart node.tokens :=
  Cursor.areApart_of_foldlM (Cursor.foldlM_tokens node [])


-- ---------------------------------------------------------------------------
-- Texts
-- ---------------------------------------------------------------------------

/-- A text is read as a tree exactly if it is one of this tree. -/
theorem ofText?_eq_some_iff : Node.ofText? text = some node ↔ IsText text node := by
  constructor
  · intro h
    obtain ⟨ts, hts, h⟩ := Option.bind_eq_some_iff.1 h
    cases Node.ofTokens?_eq_some_iff.1 h
    exact .of_tokens? hts
  · intro h
    refine Option.bind_eq_some_iff.2 ⟨node.tokens, ?_, Node.ofTokens?_eq_some_iff.2 rfl⟩
    exact tokens?_of_areLexemes h node.areApart_tokens

namespace IsText

variable {node' : Node} {trailing : String}

/-- A text is one of a single tree. -/
theorem unique (h : IsText text node) (h' : IsText text node') : node = node' :=
  Option.some.inj ((ofText?_eq_some_iff.2 h).symm.trans (ofText?_eq_some_iff.2 h'))

/-- What follows a value is white space, or it makes a longer numeral of it. -/
theorem number_of_append (h : IsText text node) (h' : IsText (text ++ trailing) node')
    (more : ∃ c ∈ trailing.toList, isSpace c = false) : ∃ n, node' = .number n := by
  by_cases number : ∃ t ∈ node.tokens.getLast?, t.IsNumber
  case pos =>
    -- The whole text starts as the numeral does, so with a numeral.
    obtain ⟨n, rfl⟩ := node.eq_number_of_getLast? number
    obtain ⟨t', ts', hnode', -⟩ := node'.tokens_eq_cons
    rw [IsText, String.toList_append, hnode'] at h'
    obtain ⟨c, hc, hnumber⟩ := AreLexemes.find?_eq h
    obtain ⟨c', hc', hnumber'⟩ := h'.find?_eq
    rw [List.find?_append, hc, Option.some_or] at hc'
    cases hc'
    exact node'.eq_number_of_head hnode' (hnumber'.2 (hnumber.1 ⟨n, rfl⟩))
  case neg =>
    -- Any more tokens would stand behind a value that is complete.
    have hread : tokensAfter [] (text.toList ++ trailing.toList) =
        tokensAfter (node.tokens.reverse ++ []) trailing.toList :=
      tokensAfter_of_areLexemes h node.areApart_tokens (absurd · number) []
    have hread' := tokens?_of_areLexemes h' node'.areApart_tokens
    rw [tokens?, String.toList_append, hread, List.append_nil] at hread'
    obtain ⟨others, hothers, hspelled⟩ := AreLexemes.of_tokensAfter hread'
    have hfold := Cursor.foldlM_tokens node' []
    rw [hothers, List.reverse_reverse, List.foldlM_append, Cursor.foldlM_tokens node] at hfold
    cases Cursor.foldlM_after_nil hfold
    obtain ⟨c, hc, hspace⟩ := more
    rw [hspelled.isSpace_of_nil c hc] at hspace
    cases hspace

end IsText

end DashboardClient.Json
