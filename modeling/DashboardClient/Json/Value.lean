import DashboardClient.Json.Node
import DashboardClient.Json.Number
import DashboardClient.Json.Quoted

/-!
# JSON values

Values of any shape, as they are read from and written to the backend. Members stand
in the order of their keys, each key once; of a repeated key the last value counts.
Reading refuses text that nests 128 containers or more, a number beyond the doubles,
and a string with a lone surrogate.
-/

namespace DashboardClient.Json

/-- A JSON value. -/
inductive Value where
  | null
  | bool (b : Bool)
  | number (n : Number)
  | string (s : String)
  | array (items : List Value)
  | object (members : List (String × Value))
  deriving Repr

namespace Value

/-- Put a member where its key belongs, in place of one with the same key. -/
def insertMember (key : String) (value : Value) :
    List (String × Value) → List (String × Value)
  | [] => [(key, value)]
  | (k, v) :: rest =>
    if key < k then (key, value) :: (k, v) :: rest
    else if key = k then (key, value) :: rest
    else (k, v) :: insertMember key value rest

/-- An object from its members in the order they were read. -/
def ofMembers (members : List (String × Value)) : Value :=
  .object (members.foldl (fun sorted m => insertMember m.1 m.2 sorted) [])

/-- The value of a tree with at most `depth` containers inside one another. -/
def ofNode? : Nat → Node → Option Value
  | _, .null => some .null
  | _, .bool b => some (.bool b)
  | _, .number n => (Number.ofNumeral? n).map .number
  | _, .string pieces => (textOfPieces? pieces).map .string
  | 0, .array _ => none
  | 0, .object _ => none
  | depth + 1, .array items => (items.mapM (ofNode? depth)).map .array
  | depth + 1, .object members =>
    (members.mapM fun (pieces, node) => do
      return (← textOfPieces? pieces, ← ofNode? depth node)).map ofMembers

/-- Containers may nest to this depth. -/
def maxDepth : Nat := 127

/-- The value that a text spells. -/
def ofText? (text : String) : Option Value := do
  ofNode? maxDepth (← Node.ofText? text)

mutual

/-- The value as JSON text, without spaces. -/
def render : Value → String
  | .null => "null"
  | .bool true => "true"
  | .bool false => "false"
  | .number n => n.render
  | .string s => writtenString s
  | .array items => "[" ++ ",".intercalate (renderItems items) ++ "]"
  | .object members => "\x7b" ++ ",".intercalate (renderMembers members) ++ "\x7d"

/-- Each item as JSON text. -/
def renderItems : List Value → List String
  | [] => []
  | v :: rest => v.render :: renderItems rest

/-- Each member as JSON text. -/
def renderMembers : List (String × Value) → List String
  | [] => []
  | (k, v) :: rest => (writtenString k ++ ":" ++ v.render) :: renderMembers rest

end

end Value

end DashboardClient.Json
