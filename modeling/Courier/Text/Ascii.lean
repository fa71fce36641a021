/-!
# ASCII text

Character classes and readings of the ASCII range.  Every function here leaves characters outside
that range alone: a letter with a diacritic is in no class and keeps its case.
-/

namespace Courier.Ascii

/-- Lower case of the ASCII letters. -/
def lower (text : String) : String := String.ofList (text.toList.map Char.toLower)

/-- Two texts that differ at most in the case of ASCII letters. -/
def sameLetters (left right : String) : Bool := lower left == lower right

/-- Hexadecimal digits of either case. -/
def isHexDigit (char : Char) : Bool :=
  char.isDigit || ('a' ≤ char && char ≤ 'f') || ('A' ≤ char && char ≤ 'F')

/-- The value of a digit in bases up to sixteen; zero for any other character. -/
def digitValue (char : Char) : Nat :=
  if char.isDigit then char.toNat - '0'.toNat
  else if 'a' ≤ char && char ≤ 'f' then char.toNat - 'a'.toNat + 10
  else if 'A' ≤ char && char ≤ 'F' then char.toNat - 'A'.toNat + 10
  else 0

/-- The number a list of digits stands for. -/
def ofDigits (base : Nat) (digits : List Char) : Nat :=
  digits.foldl (fun value digit => value * base + digitValue digit) 0

/-- The digit of a value below sixteen. -/
def hexDigit (value : Nat) : Char :=
  if value < 10 then Char.ofNat ('0'.toNat + value) else Char.ofNat ('a'.toNat + (value - 10))

/-- The upper-case digit of a value below sixteen. -/
def upperHexDigit (value : Nat) : Char := (hexDigit value).toUpper

/-- A decimal number of at most sixteen bits, with an optional plus sign. -/
def port? (text : String) : Option UInt16 :=
  let digits := match text.toList with
    | '+' :: rest => rest
    | chars => chars
  if digits.isEmpty || !digits.all Char.isDigit then none
  else
    let value := ofDigits 10 digits
    if value < 65536 then some (UInt16.ofNat value) else none

/-- The part of a text before and after its last occurrence of a character. -/
def splitLast (mark : Char) (text : String) : Option (String × String) :=
  let reversed := text.toList.reverse
  let after := reversed.takeWhile (· != mark)
  match reversed.dropWhile (· != mark) with
  | [] => none
  | _ :: before => some (String.ofList before.reverse, String.ofList after.reverse)

end Courier.Ascii
