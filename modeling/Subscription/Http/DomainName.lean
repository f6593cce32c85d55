import Subscription.Http.NameMapping
import Subscription.Text.Composition
import Subscription.Text.Direction
import Subscription.Text.Joining
import Subscription.Text.Punycode

/-!
# Names of hosts

The name of a host is made of labels between points. It may be written in the letters of any script,
and `DomainName.ascii?` gives the one form in which it is looked up: every character is replaced by
what it stands for, and a label with others than ASCII characters is written in ASCII behind a mark.
Labels that could be taken for others are no part of a name: those that begin with a mark of no
letter, those with joiners where nothing joins, and those whose direction is not clear.
-/

namespace Subscription

namespace DomainName

/-- A label in its letters, and as it is looked up. -/
structure Label where
  letters : List Char
  ascii : List Char
  deriving DecidableEq, Repr

/-- Whether all characters are ASCII characters. -/
def isAscii (chars : List Char) : Bool := chars.all (·.toNat < 0x80)

/-- Whether a character may be part of a name. -/
def isNameChar (c : Char) : Bool :=
  0x80 ≤ c.toNat || (0x20 < c.toNat && c.toNat < 0x7F && c ∉ "#/:<>?@[\\]^|%".toList)

/-! ### Joiners -/

/-- How the next character joins that lets none pass. -/
def nextJoining (chars : List Char) : Joining :=
  ((chars.map Joining.of).find? (· ≠ .transparent)).getD .separate

/-- Whether a joiner may stand between the characters in front of it, which are given in reverse,
and those behind it. It may follow a sign that takes the vowel from a letter; and one that keeps
letters apart may stand between two that would join. -/
def joinerFits (front : List Char) (joiner : Char) (rest : List Char) : Bool :=
  match front with
  | [] => false
  | previous :: _ =>
    CombiningClass.of previous = CombiningClass.virama
      || (joiner = '\u200C' && (nextJoining front).joinsBehind && (nextJoining rest).joinsInFront)

/-- Whether all joiners in a label are where they may be. The characters passed so far are given in
reverse. -/
def joinersFit (front : List Char) : List Char → Bool
  | [] => true
  | c :: rest =>
    (!NameMapping.isJoiner c || joinerFits front c rest) && joinersFit (c :: front) rest

/-! ### Directions -/

/-- Whether characters of a direction make a name run from right to left. -/
def turnsName (direction : Direction) : Bool :=
  direction ∈ [.rightToLeft, .arabicLetter, .arabicNumber]

/-- The directions that have a place in every label. -/
def anyLabel : List Direction :=
  [.europeanNumber, .europeanSeparator, .europeanTerminator, .commonSeparator, .nonspacingMark,
   .boundaryNeutral, .otherNeutral]

/-- Whether the direction of a label is clear: it begins with a letter, holds no letters of the
other direction and ends, marks apart, with a letter or a number. Numbers of both kinds do not stand
together where letters run from right to left. -/
def isDirected (letters : List Char) : Bool :=
  let directions := letters.map Direction.of
  let last := (directions.reverse.find? (· ≠ .nonspacingMark)).getD .otherNeutral
  match directions.head? with
  | none => true
  | some .leftToRight =>
    last ∈ [.leftToRight, .europeanNumber]
      && directions.all fun direction => direction ∈ .leftToRight :: anyLabel
  | some .rightToLeft | some .arabicLetter =>
    last ∈ [.rightToLeft, .arabicLetter, .arabicNumber, .europeanNumber]
      && (directions.all fun direction =>
        direction ∈ .rightToLeft :: .arabicLetter :: .arabicNumber :: anyLabel)
      && !(directions.contains .europeanNumber && directions.contains .arabicNumber)
  | some _ => false

/-! ### Labels -/

/-- What stands in front of a label that is written in ASCII. -/
def codeMark : List Char := ['x', 'n', '-', '-']

/-- The length of the longest label with others than ASCII characters. -/
def longestLabel : Nat := 1000

/-- The length of the longest label that is written in ASCII. -/
def longestCode : Nat := 2000

/-- Whether a label with others than ASCII characters is legal. -/
def isLegal (letters : List Char) : Bool :=
  letters.length ≤ longestLabel && !letters.head?.any isMark && joinersFit [] letters

/-- The letters of a label that is written in ASCII. It has to be written as it would be from its
letters, in which each stands for itself and all is composed that can be. -/
def decoded? (code : List Char) : Option (List Char) := do
  guard (isAscii code && code.length ≤ longestCode && code.getLast?.any (· ≠ '-'))
  let letters ← Punycode.decode? code
  guard (letters.all NameMapping.isPlain && Composition.normal letters = letters)
  return letters

/-- The label that characters are, if they are one. -/
def label? (chars : List Char) : Option Label := do
  let chars := if isAscii chars then chars else Composition.normal chars
  let label : Label ←
    match behind? codeMark chars with
    | some code => (decoded? code).map fun letters => { letters, ascii := chars }
    | none =>
      if isAscii chars then some { letters := chars, ascii := chars }
      else some { letters := chars, ascii := codeMark ++ Punycode.encode chars }
  guard (label.letters.all isNameChar && (isAscii label.letters || isLegal label.letters))
  return label

/-! ### Names -/

/-- The name that is looked up for characters, if they are a name. A name that holds characters from
right to left needs labels with a clear direction. -/
def ascii? (chars : List Char) : Option (List Char) := do
  let meant ← chars.mapM NameMapping.meant?
  let labels ← (splitAt '.' meant.flatten).mapM label?
  let turns := labels.any fun label => label.letters.any fun c => turnsName (Direction.of c)
  guard (!turns || labels.all fun label => isDirected label.letters)
  return (['.'].intercalate (labels.map Label.ascii))

end DomainName

end Subscription
