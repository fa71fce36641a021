import Courier.Bytes

/-!
# Base64

The standard alphabet with padding.  `encode` writes three octets as four digits; `decode` reads
exactly the texts `encode` writes.
-/

namespace Courier.Base64

/-- The digit of a value below sixty-four. -/
def digit (value : Nat) : Char :=
  if value < 26 then Char.ofNat ('A'.toNat + value)
  else if value < 52 then Char.ofNat ('a'.toNat + (value - 26))
  else if value < 62 then Char.ofNat ('0'.toNat + (value - 52))
  else if value == 62 then '+' else '/'

/-- The value of a digit. -/
def value? (char : Char) : Option Nat :=
  if 'A' ≤ char && char ≤ 'Z' then some (char.toNat - 'A'.toNat)
  else if 'a' ≤ char && char ≤ 'z' then some (char.toNat - 'a'.toNat + 26)
  else if '0' ≤ char && char ≤ '9' then some (char.toNat - '0'.toNat + 52)
  else if char == '+' then some 62
  else if char == '/' then some 63
  else none

/-- The digits of a byte string. -/
def encodeChars : Bytes → List Char
  | [] => []
  | [a] =>
    let bits := a.toNat * 16
    [digit (bits / 64), digit (bits % 64), '=', '=']
  | [a, b] =>
    let bits := (a.toNat * 256 + b.toNat) * 4
    [digit (bits / 4096), digit (bits / 64 % 64), digit (bits % 64), '=']
  | a :: b :: c :: rest =>
    let bits := (a.toNat * 256 + b.toNat) * 256 + c.toNat
    digit (bits / 262144) :: digit (bits / 4096 % 64) :: digit (bits / 64 % 64)
      :: digit (bits % 64) :: encodeChars rest

/-- The padded form of a byte string. -/
def encode (bytes : Bytes) : String := String.ofList (encodeChars bytes)

/-- The byte string of a list of digits; a final group must leave no bits unused but zeros. -/
def decodeChars : List Char → Option Bytes
  | [] => some []
  | [a, b, '=', '='] => do
    let bits := (← value? a) * 64 + (← value? b)
    if bits % 16 == 0 then some [UInt8.ofNat (bits / 16)] else none
  | [a, b, c, '='] => do
    let bits := ((← value? a) * 64 + (← value? b)) * 64 + (← value? c)
    if bits % 4 == 0 then some [UInt8.ofNat (bits / 1024), UInt8.ofNat (bits / 4 % 256)] else none
  | a :: b :: c :: d :: rest => do
    let bits := (((← value? a) * 64 + (← value? b)) * 64 + (← value? c)) * 64 + (← value? d)
    let others ← decodeChars rest
    some (UInt8.ofNat (bits / 65536) :: UInt8.ofNat (bits / 256 % 256)
      :: UInt8.ofNat (bits % 256) :: others)
  | _ => none

/-- The byte string of a padded form. -/
def decode (text : String) : Option Bytes := decodeChars text.toList

end Courier.Base64
