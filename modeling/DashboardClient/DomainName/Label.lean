import DashboardClient.DomainName.Punycode
import DashboardClient.DomainName.Spelling
import DashboardClient.Text.Composed
import DashboardClient.Text.Direction
import DashboardClient.Text.Joining

/-!
# Labels

The parts between the dots of a domain name. A label beyond ASCII is written in Punycode
behind the letters `xn--`. It does not begin with a mark, and it holds joiners only where
they make a difference. A label that comes in Punycode has to stand for one that could have
been given as it is. In a name with text from right to left, all of a label goes one way.
-/

namespace DashboardClient.DomainName

open Text (Direction)

/-- A label as it is read, and as it is written in ASCII. -/
structure Label where
  shown : List Char
  written : List Char
  deriving DecidableEq, Repr

namespace Label

-- ---------------------------------------------------------------------------
-- Joiners
-- ---------------------------------------------------------------------------

/-- Keeps the letters around it from joining. -/
def nonJoiner : Char := '\u200c'

/-- Joins the letters around it. -/
def joiner : Char := '\u200d'

/-- Whether letters on both sides would join. What stands before is listed backwards. -/
def isBetweenJoining (before behind : List Char) : Bool :=
  (before.dropWhile Text.isTransparent).head?.any Text.joinsNext &&
    (behind.dropWhile Text.isTransparent).head?.any Text.joinsPrevious

/-- Whether every joiner follows a virama, or keeps letters apart that would join. What
stands before the text is listed backwards. -/
def joinersFit (before : List Char) : List Char → Bool
  | [] => true
  | c :: cs =>
    let isFit :=
      if c == joiner || c == nonJoiner then
        before.head?.any fun last =>
          Text.combiningClass last == Text.viramaClass ||
            (c == nonJoiner && isBetweenJoining before cs)
      else true
    isFit && joinersFit (c :: before) cs


-- ---------------------------------------------------------------------------
-- Directions
-- ---------------------------------------------------------------------------

/-- Whether text from right to left is in the label. -/
def isRightToLeft (label : Label) : Bool :=
  label.shown.any fun c => Text.direction c == .right || Text.direction c == .arabicNumber

/-- Whether directions go one way. The first one says which, and the last one but for marks
agrees with it. Text from right to left has digits of one kind at most. -/
def goOneWay : List Direction → Bool
  | [] => true
  | first :: rest =>
    let rest := rest.reverse.dropWhile (· == .mark)
    let endsWith (ds : List Direction) := rest.head?.all ds.contains
    match first with
    | .left =>
      endsWith [.left, .europeanNumber] && !rest.contains .right && !rest.contains .arabicNumber
    | .right =>
      endsWith [.right, .europeanNumber, .arabicNumber] && !rest.contains .left &&
        !(rest.contains .europeanNumber && rest.contains .arabicNumber)
    | _ => false

/-- Whether all of the label goes one way. -/
def goesOneWay (label : Label) : Bool :=
  goOneWay (label.shown.map Text.direction)


-- ---------------------------------------------------------------------------
-- Reading
-- ---------------------------------------------------------------------------

/-- What a label in Punycode begins with. -/
def encodedMark : List Char := "xn--".toList

/-- Whether text beyond ASCII can be a label. -/
def isWellFormed (cs : List Char) : Bool :=
  !cs.head?.any Text.isMark && joinersFit [] cs

/-- Whether text is spelled as the name of a host spells it. -/
def isSettled (cs : List Char) : Bool :=
  cs.all (fun c => spelling? c == some [c]) && Text.composed cs == cs

/-- The longest label beyond ASCII. -/
def lengthLimit : Nat := 1000

/-- The longest code of a label in Punycode. -/
def codeLimit : Nat := 2000

/-- Read a label in Punycode behind its mark. It stays as it is. -/
def ofCode? (code : List Char) : Option Label :=
  if !code.all Punycode.isAscii || code.getLast?.all (· == '-') || codeLimit < code.length then
    none
  else
    ((Punycode.decode? code).filter fun shown => isSettled shown && isWellFormed shown).map
      fun shown => { shown, written := encodedMark ++ code }

/-- Read a label. -/
def ofText? (cs : List Char) : Option Label :=
  match encodedMark.isPrefixOf? cs with
  | some code => ofCode? code
  | none =>
    if cs.all Punycode.isAscii then some { shown := cs, written := cs }
    else if isWellFormed cs && cs.length ≤ lengthLimit then
      some { shown := cs, written := encodedMark ++ Punycode.encode cs }
    else none

end Label

end DashboardClient.DomainName
