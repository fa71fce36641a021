import Courier.Idna.Mapping
import Courier.Unicode.Composed
import Courier.Unicode.Direction
import Courier.Unicode.Joining

/-!
# Labels

What a label of a domain name may hold: characters that stay as they are, in composed form, without
a mark in front, with joiners only where they join, and, where one label of the name runs from right
to left, in an order of directions that cannot mislead.
-/

namespace Courier.Idna

open Unicode (Direction direction)

/-- The zero width non-joiner. -/
def nonJoiner : Char := Char.ofNat 0x200c

/-- The zero width joiner. -/
def joiner : Char := Char.ofNat 0x200d

/-- Whether the first letter found past transparent characters has a property. -/
def reaches (hasProperty : Char → Bool) (chars : List Char) : Bool :=
  (chars.dropWhile Unicode.isTransparent).head?.any hasProperty

/-- Whether every joiner is in its place, given what comes before, last character first: behind a
virama, or, for a non-joiner, between letters that would join. -/
def joinersPlaced (before : List Char) : List Char → Bool
  | [] => true
  | char :: rest =>
    let isPlaced :=
      if char == nonJoiner || char == joiner then
        before.head?.any Unicode.isVirama
          || (char == nonJoiner && reaches Unicode.joinsNext before
            && reaches Unicode.joinsPrevious rest)
      else true
    isPlaced && joinersPlaced (char :: before) rest

/-- The letters that an ASCII form begins with. -/
def asciiMark : List Char := ['x', 'n', '-', '-']

/-- Whether a label may be in a domain name. -/
def isValidLabel (label : List Char) : Bool :=
  label.all (treatment · == .kept)
    && Unicode.composed label == label
    && !asciiMark.isPrefixOf label
    && !label.head?.any Unicode.isMark
    && joinersPlaced [] label

/-! ## Directions -/

/-- Whether a character makes a domain name one with two directions. -/
def isRightward (char : Char) : Bool :=
  direction char ∈ [Direction.rightToLeft, .arabicLetter, .arabicNumber]

/-- The directions of a label without the marks at its end. -/
def trimmedDirections (label : List Char) : List Direction :=
  ((label.map direction).reverse.dropWhile (· == .mark)).reverse

/-- Whether a label that begins from left to right keeps to that. -/
def keepsLeft (directions : List Direction) : Bool :=
  directions.all (· ∈ [Direction.leftToRight, .europeanNumber, .europeanSeparator,
    .commonSeparator, .europeanTerminator, .neutral, .boundary, .mark])
    && directions.getLast?.any (· ∈ [Direction.leftToRight, .europeanNumber])

/-- Whether a label that begins from right to left keeps to that, with numbers of one kind. -/
def keepsRight (directions : List Direction) : Bool :=
  directions.all (· ∈ [Direction.rightToLeft, .arabicLetter, .arabicNumber, .europeanNumber,
    .europeanSeparator, .commonSeparator, .europeanTerminator, .neutral, .boundary, .mark])
    && directions.getLast?.any (· ∈ [Direction.rightToLeft, .arabicLetter, .europeanNumber,
      .arabicNumber])
    && !(directions.contains .europeanNumber && directions.contains .arabicNumber)

/-- Whether a label may be in a domain name with two directions. -/
def keepsDirection (label : List Char) : Bool :=
  let directions := trimmedDirections label
  match directions with
  | [] => label.isEmpty
  | .leftToRight :: _ => keepsLeft directions
  | .rightToLeft :: _ | .arabicLetter :: _ => keepsRight directions
  | _ => false

end Courier.Idna
