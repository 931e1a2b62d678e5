import DashboardClient.Text.CombiningClass
import DashboardClient.Text.Decomposition

/-!
# Composed text

The one spelling of text among those that are canonically equivalent. Every character is
taken apart, marks behind the same character are put into the order of their classes, and
then what can be composed is composed. A mark is composed with the character in front of it
only if no mark of its class or a higher one stands between them.
-/

namespace DashboardClient.Text

-- ---------------------------------------------------------------------------
-- Korean syllables
-- ---------------------------------------------------------------------------

-- A syllable is a leading consonant, a vowel and, unless it is open, a final consonant.
namespace Syllable

def first : Nat := 0xAC00

def leads : Nat × Nat := (0x1100, 19)

def vowels : Nat × Nat := (0x1161, 21)

/-- Final consonants, with a place for none in front of them. -/
def finals : Nat × Nat := (0x11A7, 28)

/-- The place of a code point in a block with a first one and a size. -/
def place? (block : Nat × Nat) (n : Nat) : Option Nat :=
  if block.1 ≤ n ∧ n < block.1 + block.2 then some (n - block.1) else none

/-- The parts of a syllable. -/
def parts? (c : Char) : Option (List Char) :=
  (place? (first, 19 * 21 * 28) c.toNat).map fun i =>
    let final := if i % 28 = 0 then [] else [finals.1 + i % 28]
    ((leads.1 + i / (21 * 28)) :: (vowels.1 + i % (21 * 28) / 28) :: final).map Char.ofNat

/-- The syllable of a consonant and a vowel, or of an open syllable and a final consonant. -/
def join? (a b : Char) : Option Char :=
  match place? leads a.toNat, place? vowels b.toNat with
  | some lead, some vowel => some (Char.ofNat (first + (21 * lead + vowel) * 28))
  | _, _ =>
    match place? (first, 19 * 21 * 28) a.toNat, place? finals b.toNat with
    | some i, some final =>
      if i % 28 = 0 ∧ 0 < final then some (Char.ofNat (first + i + final)) else none
    | _, _ => none

end Syllable


-- ---------------------------------------------------------------------------
-- Taking apart
-- ---------------------------------------------------------------------------

/-- All parts of a character. What has no parts is its own part. -/
def partsOf (c : Char) : List Char :=
  ((Syllable.parts? c).or (parts? c)).getD [c]

/-- Put a character in front of ordered ones, behind the marks of lower classes that come
first. -/
def insertMark (c : Char) : List Char → List Char
  | [] => [c]
  | d :: ds =>
    if 0 < combiningClass d ∧ combiningClass d < combiningClass c then d :: insertMark c ds
    else c :: d :: ds

/-- Put the marks behind each character into the order of their classes. -/
def orderMarks (cs : List Char) : List Char :=
  cs.foldr insertMark []


-- ---------------------------------------------------------------------------
-- Composing
-- ---------------------------------------------------------------------------

/-- The character that two others compose. -/
def join? (a b : Char) : Option Char :=
  (Syllable.join? a b).or (composite? (partsOf a ++ [b]))

/-- Compose what follows with a character. The marks between them that were passed over are
listed with the last one first. -/
def composeWith (starter : Char) (passed : List Char) : List Char → List Char
  | [] => starter :: passed.reverse
  | c :: cs =>
    let blocked := passed.head?.any fun mark => combiningClass c ≤ combiningClass mark
    match if blocked then none else join? starter c with
    | some whole => composeWith whole passed cs
    | none =>
      if combiningClass c = 0 then starter :: passed.reverse ++ composeWith c [] cs
      else composeWith starter (c :: passed) cs

/-- Compose what can be composed. Marks without a character in front of them stay. -/
def compose : List Char → List Char
  | [] => []
  | c :: cs => if combiningClass c = 0 then composeWith c [] cs else c :: compose cs

/-- The composed spelling of text. -/
def composed (cs : List Char) : List Char :=
  compose (orderMarks (cs.flatMap partsOf))

end DashboardClient.Text
