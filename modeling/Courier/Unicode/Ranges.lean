import Courier.Text.Ascii

/-!
# Ranges of characters

Tables of characters are written as ranges of code points or as texts of hexadecimal code points.
-/

namespace Courier.Unicode

/-- Ranges of code points, both ends included. -/
abbrev Ranges := List (Nat × Nat)

/-- Whether a character is in one of the ranges. -/
def Ranges.covers (ranges : Ranges) (char : Char) : Bool :=
  ranges.any fun (first, last) => first ≤ char.toNat && char.toNat ≤ last

/-- The characters whose code points a text lists, with a separator between them. -/
def codePoints (separator text : String) : List Char :=
  (text.splitOn separator).map fun word => Char.ofNat (Ascii.ofDigits 16 word.toList)

end Courier.Unicode
