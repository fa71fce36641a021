import Courier.Unicode.CombiningClass
import Courier.Unicode.Composition

/-!
# Composed text

Text is brought into composed form in three steps: every character is taken apart, marks are put in
the order of their classes, and whatever composes is composed.  The form is the canonical one for
text without characters that merely stand for others.
-/

namespace Courier.Unicode

/-- Takes a character apart, down to a number of levels. -/
def decompose : Nat → Char → List Char
  | 0, char => [char]
  | depth + 1, char =>
    match parts? char with
    | some parts => parts.flatMap (decompose depth)
    | none => [char]

/-- No character is composed on more levels. -/
def deepest : Nat := 4

/-- Puts a character before ordered text: a mark goes behind marks of lower classes. -/
def placeMark (char : Char) : List Char → List Char
  | [] => [char]
  | next :: rest =>
    if combiningClass next < combiningClass char && !isStarter next then
      next :: placeMark char rest
    else char :: next :: rest

/-- Marks in the order of their classes; marks of one class keep their order. -/
def orderMarks (chars : List Char) : List Char := chars.foldr placeMark []

/-- Composes a starter with what follows it.  `kept` are the marks in between that did not compose,
last one first; they shut off whatever has not a higher class. -/
def composeFrom (starter : Char) (kept : List Char) : List Char → List Char
  | [] => starter :: kept.reverse
  | char :: rest =>
    let reaches := match kept with
      | [] => true
      | last :: _ => combiningClass last < combiningClass char
    match if reaches then compose? starter char else none with
    | some whole => composeFrom whole kept rest
    | none =>
      if isStarter char then starter :: kept.reverse ++ composeFrom char [] rest
      else composeFrom starter (char :: kept) rest

/-- Composes text whose marks are in order. -/
def composeOrdered : List Char → List Char
  | [] => []
  | char :: rest => if isStarter char then composeFrom char [] rest else char :: composeOrdered rest

/-- The composed form of a text. -/
def composed (chars : List Char) : List Char :=
  composeOrdered (orderMarks (chars.flatMap (decompose deepest)))

end Courier.Unicode
