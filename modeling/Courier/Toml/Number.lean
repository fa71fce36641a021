import Courier.Document
import Courier.Toml.Scan

/-!
# Numbers, dates and times in TOML

A value that starts with a digit or a sign is a date or time, a floating-point number or a whole
number, tried in this order.
-/

namespace Courier.Toml

/-- Reads digits of a class; an underscore may stand between two of them. -/
def digitsFrom (isDigit : Char → Bool) (read : List Char) : List Char → List Char × List Char
  | '_' :: char :: rest =>
    if !read.isEmpty && isDigit char then digitsFrom isDigit (char :: read) rest
    else (read.reverse, '_' :: char :: rest)
  | char :: rest =>
    if isDigit char then digitsFrom isDigit (char :: read) rest else (read.reverse, char :: rest)
  | [] => (read.reverse, [])

/-- Reads at least one digit of a class. -/
def digits (isDigit : Char → Bool) : Scanner (List Char) := fun chars =>
  match digitsFrom isDigit [] chars with
  | ([], _) => none
  | found => some found

/-- Reads a sign; tells whether it is a minus. -/
def sign : Scanner Bool := do
  match ← peek with
  | some '+' => expect '+'; return false
  | some '-' => expect '-'; return true
  | _ => return false

/-- Reads the digits of a decimal whole number, which has no leading zero. -/
def wholeDigits : Scanner (List Char) := do
  if (← peek) == some '0' then
    expect '0'
    return ['0']
  else digits Char.isDigit

/-- A whole number of sixty-four bits. -/
def bounded (value : Int) : Scanner Document :=
  if -9223372036854775808 ≤ value && value ≤ 9223372036854775807 then
    return .integer value
  else reject

/-- Reads a whole number in a base named by a letter. -/
def radixInteger (letter : Char) (base : Nat) (isDigit : Char → Bool) : Scanner Document := do
  expectAll ['0', letter]
  bounded (Ascii.ofDigits base (← digits isDigit))

/-- Reads a decimal whole number. -/
def decimalInteger : Scanner Document := do
  let negative ← sign
  let value : Int := Ascii.ofDigits 10 (← wholeDigits)
  bounded (if negative then -value else value)

/-- Reads a whole number. -/
def integer : Scanner Document := do
  let isOctal (char : Char) : Bool := '0' ≤ char && char ≤ '7'
  fun chars =>
    match chars with
    | '0' :: 'x' :: _ => radixInteger 'x' 16 Ascii.isHexDigit chars
    | '0' :: 'o' :: _ => radixInteger 'o' 8 isOctal chars
    | '0' :: 'b' :: _ => radixInteger 'b' 2 (fun char => char == '0' || char == '1') chars
    | _ => decimalInteger chars

/-- The number of a mantissa and a power of ten. -/
def floatOf (negative : Bool) (mantissa : Nat) (exponent : Int) : Float :=
  let bounded : Int := max (-100000) (min 100000 exponent)
  let size := if bounded < 0 then Float.ofScientific mantissa true bounded.natAbs
    else Float.ofScientific mantissa false bounded.natAbs
  if negative then -size else size

/-- Reads the exponent of a floating-point number, if there is one. -/
def exponent? : Scanner (Option Int) := do
  let mark ← peek
  if mark == some 'e' || mark == some 'E' then
    expectAll mark.toList
    let negative ← sign
    let value : Int := Ascii.ofDigits 10 (← digits Char.isDigit)
    return some (if negative then -value else value)
  else return none

/-- Reads a floating-point number in digits. -/
def digitFloat : Scanner Document := do
  let negative ← sign
  let whole ← wholeDigits
  let fraction ← if (← peek) == some '.' then
      expect '.'
      (some <$> digits Char.isDigit : Scanner (Option (List Char)))
    else pure none
  let exponent ← exponent?
  if fraction.isNone && exponent.isNone then reject
  let places := fraction.getD []
  let value := floatOf negative (Ascii.ofDigits 10 (whole ++ places))
    (exponent.getD 0 - places.length)
  if value.isInf then reject else return .float value

/-- Reads an infinite number or a number that is none. -/
def namedFloat : Scanner Document := do
  let negative ← sign
  if (← peek) == some 'i' then
    expectAll ['i', 'n', 'f']
    return .float (if negative then -1.0 / 0.0 else 1.0 / 0.0)
  else
    expectAll ['n', 'a', 'n']
    return .float (0.0 / 0.0)

/-! ## Dates and times -/

/-- Reads a decimal number of a fixed width, between two bounds. -/
def field (width least greatest : Nat) : Scanner Nat := fun chars =>
  let digits := chars.take width
  let value := Ascii.ofDigits 10 digits
  if digits.length == width && digits.all Char.isDigit && least ≤ value && value ≤ greatest then
    some (value, chars.drop width)
  else none

/-- The number of days of a month. -/
def daysOf (year month : Nat) : Nat :=
  if month == 2 then
    if year % 4 == 0 && (year % 100 != 0 || year % 400 == 0) then 29 else 28
  else if month ∈ [4, 6, 9, 11] then 30 else 31

/-- Reads a date. -/
def date : Scanner Unit := do
  let year ← field 4 0 9999
  expect '-'
  let month ← field 2 1 12
  expect '-'
  let _ ← field 2 1 (daysOf year month)

/-- Reads a time of day. -/
def time : Scanner Unit := do
  let _ ← field 2 0 23
  expect ':'
  let _ ← field 2 0 59
  expect ':'
  let _ ← field 2 0 60
  if (← peek) == some '.' then
    expect '.'
    if (← run Char.isDigit).isEmpty then reject

/-- Reads an offset from universal time. -/
def offset : Scanner Unit := do
  match ← peek with
  | some 'Z' => expect 'Z'
  | some 'z' => expect 'z'
  | mark =>
    if mark == some '+' || mark == some '-' then
      expectAll mark.toList
      let _ ← field 2 0 23
      expect ':'
      let _ ← field 2 0 59

/-- Whether a time follows a date. -/
def timeFollows : List Char → Bool
  | ' ' :: char :: _ => char.isDigit
  | 'T' :: _ | 't' :: _ => true
  | _ => false

/-- Reads a date with a time, a date or a time. -/
def datetime : Scanner Document := do
  let start ← get
  let dated : Scanner Unit := do
    date
    if timeFollows (← get) then
      set ((← get).drop 1)
      time
      offset
  firstOf [dated, time]
  let rest ← get
  return .datetime (String.ofList (start.take (start.length - rest.length)))

/-- Reads a date, a time or a number. -/
def number : Scanner Document := firstOf [datetime, digitFloat, namedFloat, integer]

end Courier.Toml
