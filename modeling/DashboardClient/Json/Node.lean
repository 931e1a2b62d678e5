import DashboardClient.Json.Token

/-!
# JSON syntax trees

A tree says what a text spells: members in order, repeated keys kept, strings in
pieces, numerals in digits. Trees are built from tokens with the open containers on an
explicit stack, so any depth of nesting can be read.
-/

namespace DashboardClient.Json

/-- What one JSON text spells. -/
inductive Node where
  | null
  | bool (b : Bool)
  | number (numeral : Numeral)
  | string (pieces : List Piece)
  | array (items : List Node)
  | object (members : List (List Piece × Node))
  deriving Repr

/-- A container that is still open, with what it holds so far, last first. -/
inductive Frame where
  | items (before : List Node)
  | member (before : List (List Piece × Node)) (key : List Piece)

/-- A place between two tokens, inside the containers that are open. -/
inductive Cursor where
  | value (outer : List Frame)
  | firstItem (outer : List Frame)
  | firstKey (outer : List Frame)
  | key (before : List (List Piece × Node)) (outer : List Frame)
  | colon (before : List (List Piece × Node)) (key : List Piece) (outer : List Frame)
  | after (node : Node) (outer : List Frame)

namespace Cursor

/-- A token where a value has to start. -/
def startValue (outer : List Frame) : Token → Option Cursor
  | .null => some (.after .null outer)
  | .bool b => some (.after (.bool b) outer)
  | .number n => some (.after (.number n) outer)
  | .string s => some (.after (.string s) outer)
  | .openBracket => some (.firstItem outer)
  | .openBrace => some (.firstKey outer)
  | _ => none

/-- Move over one token. -/
def move : Cursor → Token → Option Cursor
  | .value outer, t => startValue outer t
  | .firstItem outer, .closeBracket => some (.after (.array []) outer)
  | .firstItem outer, t => startValue (.items [] :: outer) t
  | .firstKey outer, .closeBrace => some (.after (.object []) outer)
  | .firstKey outer, .string k => some (.colon [] k outer)
  | .key before outer, .string k => some (.colon before k outer)
  | .colon before k outer, .colon => some (.value (.member before k :: outer))
  | .after node (.items before :: outer), .comma => some (.value (.items (node :: before) :: outer))
  | .after node (.items before :: outer), .closeBracket =>
    some (.after (.array (node :: before).reverse) outer)
  | .after node (.member before k :: outer), .comma => some (.key ((k, node) :: before) outer)
  | .after node (.member before k :: outer), .closeBrace =>
    some (.after (.object ((k, node) :: before).reverse) outer)
  | _, _ => none

/-- The tree that has been read, when nothing is open. -/
def result? : Cursor → Option Node
  | .after node [] => some node
  | _ => none

end Cursor

namespace Node

/-- The tree that the tokens spell, if they spell exactly one. -/
def ofTokens? (ts : List Token) : Option Node := do
  (← ts.foldlM Cursor.move (.value [])).result?

/-- The tree that the text spells, if it is one JSON text. -/
def ofText? (text : String) : Option Node := do
  ofTokens? (← tokens? text)

/-- The text of a string node. -/
def text? : Node → Option String
  | .string pieces => textOfPieces? pieces
  | _ => none

end Node

end DashboardClient.Json
