import DashboardClient.Environment
import DashboardClient.Text.Alphanumeric

/-!
# Environment files

Variables in a text of lines `KEY=value`. A quoted value may hold blanks and line ends,
a backslash takes the next character as it is, and `$NAME` stands for the value of a
variable. A hash sign starts a comment at the start of a line and after a blank.

Lines are obeyed one by one. A variable that has a text already keeps it, and a line that
cannot be read ends the file.
-/

namespace DashboardClient.EnvFile

open Text (isBlank)

def apostrophe : Char := '\x27'
def openBrace : Char := '\x7b'
def closeBrace : Char := '\x7d'


-- ---------------------------------------------------------------------------
-- Lines
-- ---------------------------------------------------------------------------

/-- What stands before the next character of a line: a blank, a backslash or an open
quote, weak for `"` and strong for the apostrophe. -/
inductive LineState where
  | plain
  | blank
  | escape
  | weak
  | weakEscape
  | strong
  | strongEscape
  deriving DecidableEq, Repr

/-- The state after a character that may start something. -/
def LineState.start (c : Char) : LineState :=
  if c = '\\' then .escape
  else if c = '"' then .weak
  else if c = apostrophe then .strong
  else .plain

/-- The state after one more character. Of two blanks in a row, the second counts as any
other character. -/
def LineState.next : LineState → Char → LineState
  | .plain, c => if isBlank c && c != '\n' && c != '\r' then .blank else start c
  | .blank, c => start c
  | .escape, _ => .plain
  | .weak, c => if c = '\\' then .weakEscape else if c = '"' then .plain else .weak
  | .weakEscape, _ => .weak
  | .strong, c => if c = '\\' then .strongEscape else if c = apostrophe then .plain else .strong
  | .strongEscape, _ => .strong

/-- Read on to the end or to a comment: what stands before it, and the state at the end
if there is no comment. -/
def LineState.scan : LineState → List Char → List Char × Option LineState
  | s, [] => ([], some s)
  | s, c :: cs =>
    if s = .blank ∧ c = '#' then ([], none)
    else
      let (kept, final) := (s.next c).scan cs
      (c :: kept, final)

/-- Cut a text behind each line end. -/
def physicalLines : List Char → List (List Char)
  | [] => []
  | c :: cs =>
    if c = '\n' then [c] :: physicalLines cs
    else
      match physicalLines cs with
      | [] => [[c]]
      | line :: rest => (c :: line) :: rest

/-- Nothing is left to read, or only a comment. -/
def isOver : List Char → Bool
  | [] => true
  | c :: _ => c == '#'

/-- Join the lines that a quote holds together, after what was read of such a line and the
state it left. What is still open at the end of the text is no line. -/
def logicalLines : LineState → List Char → List (List Char) → List (Option (List Char))
  | s, _, [] => if s = .plain then [] else [none]
  | s, before, line :: rest =>
    if before.isEmpty && isOver (line.dropWhile isBlank) then logicalLines .plain [] rest
    else
      match s.scan line with
      | (kept, none) => some (before ++ kept) :: logicalLines .plain [] rest
      | (kept, some .plain) => some (before ++ kept) :: logicalLines .plain [] rest
      | (kept, some s) => logicalLines s (before ++ kept) rest


-- ---------------------------------------------------------------------------
-- Values
-- ---------------------------------------------------------------------------

/-- A piece of a value: a character, or a variable whose value stands there. -/
inductive Segment where
  | literal (c : Char)
  | reference (name : String)
  deriving DecidableEq, Repr

/-- What a reader of a value is inside of. -/
inductive ValueMode where
  | plain
  | escaped
  | strong
  | naming (name : List Char)
  | braced (name : List Char)
  | ended
  | comment
  deriving DecidableEq, Repr

/-- A reader of a value: where it stands, whether a weak quote is open, and what it has
read. -/
structure ValueReader where
  mode : ValueMode := .plain
  inWeak : Bool := false
  segments : List Segment := []
  deriving DecidableEq, Repr

namespace ValueReader

def put (r : ValueReader) (s : Segment) : ValueReader :=
  { r with segments := r.segments ++ [s] }

def enter (r : ValueReader) (mode : ValueMode) : ValueReader :=
  { r with mode }

/-- A name is over. -/
def refer (r : ValueReader) (name : List Char) : ValueReader :=
  r.put (.reference (String.ofList name))

/-- What a backslash and the character after it stand for. -/
def unescape? (c : Char) : Option Char :=
  if c = '\\' ∨ c = apostrophe ∨ c = '"' ∨ c = '$' ∨ c = ' ' then some c
  else if c = 'n' then some '\n'
  else none

/-- Read one more character. The character that ends a name without braces is taken as it
is, even if it is a quote or a blank. -/
def next (r : ValueReader) (c : Char) : Option ValueReader :=
  match r.mode with
  | .plain =>
    some (
      if c = '$' then r.enter (.naming [])
      else if c = '\\' then r.enter .escaped
      else if c = '"' then { r with inWeak := !r.inWeak }
      else if r.inWeak then r.put (.literal c)
      else if c = apostrophe then r.enter .strong
      else if c = ' ' ∨ c = '\t' then r.enter .ended
      else r.put (.literal c))
  | .escaped => (unescape? c).map fun c => (r.put (.literal c)).enter .plain
  | .strong => some (if c = apostrophe then r.enter .plain else r.put (.literal c))
  | .naming name =>
    some (
      if Text.isAlphanumeric c then r.enter (.naming (name ++ [c]))
      else if c = openBrace ∧ name = [] then r.enter (.braced [])
      else if c = '$' then (r.refer name).enter (.naming [])
      else ((r.refer name).put (.literal c)).enter .plain)
  | .braced name =>
    some (if c = closeBrace then (r.refer name).enter .plain else r.enter (.braced (name ++ [c])))
  | .ended =>
    if c = ' ' ∨ c = '\t' then some r
    else if c = '#' then some (r.enter .comment)
    else none
  | .comment => some r

/-- The value that was read, unless a quote or a brace is still open. -/
def finish (r : ValueReader) : Option (List Segment) :=
  if r.inWeak then none
  else
    match r.mode with
    | .strong => none
    | .braced _ => none
    | .naming name => some (r.refer name).segments
    | _ => some r.segments

/-- Read a value. -/
def read (cs : List Char) : Option (List Segment) :=
  (cs.foldlM next {}).bind finish

end ValueReader


-- ---------------------------------------------------------------------------
-- Assignments
-- ---------------------------------------------------------------------------

/-- What one line says. -/
inductive Line where
  | empty
  | assign (name : String) (value : List Segment)
  | malformed
  deriving DecidableEq, Repr

def isNameStart (c : Char) : Bool :=
  c.isAlpha || c == '_'

def isNamePart (c : Char) : Bool :=
  c.isAlphanum || c == '_' || c == '.'

/-- Read a name and the blanks behind it. -/
def name? (cs : List Char) : Option (String × List Char) :=
  if cs.head?.any isNameStart then
    some (String.ofList (cs.takeWhile isNamePart), (cs.dropWhile isNamePart).dropWhile isBlank)
  else none

/-- What stands behind an equals sign and the blanks after it. -/
def afterEquals? : List Char → Option (List Char)
  | '=' :: cs => some (cs.dropWhile isBlank)
  | _ => none

/-- The name that a line sets and what stands behind its equals sign. The word `export` in
front of the name is left out. -/
def target? (cs : List Char) : Option (String × List Char) := do
  let (name, rest) ← name? cs
  match afterEquals? rest with
  | some value => return (name, value)
  | none =>
    if name = "export" then
      let (name, rest) ← name? rest
      return (name, ← afterEquals? rest)
    else none

/-- The name that a line sets and its value. -/
def assignment? (cs : List Char) : Option (String × List Segment) := do
  let (name, value) ← target? cs
  if isOver value then return (name, [])
  else return (name, ← ValueReader.read value)

namespace Line

/-- Read one line. -/
def ofChars (line : List Char) : Line :=
  let cs := (Text.trimEnd line).dropWhile isBlank
  if isOver cs then .empty
  else
    match assignment? cs with
    | some (name, value) => .assign name value
    | none => .malformed

/-- The lines of a file. A byte order mark in front of them is left out. -/
def ofText (text : String) : List Line :=
  let cs := match text.toList with
    | '\uFEFF' :: rest => rest
    | cs => cs
  (logicalLines .plain [] (physicalLines cs)).map fun
    | some line => ofChars line
    | none => .malformed

/-- The variables that a line sets or refers to. -/
def names : Line → List String
  | .assign name value =>
    name :: value.filterMap fun
      | .reference name => some name
      | .literal _ => none
  | _ => []

end Line


-- ---------------------------------------------------------------------------
-- Loading
-- ---------------------------------------------------------------------------

/-- What a piece of a value stands for. A variable without a text stands for nothing. -/
def Segment.expand (env : Environment) : Segment → String
  | .literal c => String.singleton c
  | .reference name => (env.text? name).getD ""

/-- The text of a value. -/
def expand (env : Environment) (value : List Segment) : String :=
  String.join (value.map (·.expand env))

/-- Obey the lines one by one. No variable can hold NUL: there is no environment after
an attempt to set one to such a value. -/
def obey : Environment → List Line → Option Environment
  | env, [] => some env
  | env, .empty :: rest => obey env rest
  | env, .malformed :: _ => some env
  | env, .assign name value :: rest =>
    if (env.text? name).isSome then obey env rest
    else
      let text := expand env value
      if text.toList.contains '\x00' then none
      else obey (env.set name text.toUTF8.toList) rest

/-- The environment after a file was loaded. -/
def load (env : Environment) (text : String) : Option Environment :=
  obey env (Line.ofText text)

end DashboardClient.EnvFile
