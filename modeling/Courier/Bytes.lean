/-!
# Byte strings

A byte string is a list of octets.  Text enters one through its UTF-8 encoding and leaves one
in two ways: `toString?` accepts exactly well-formed UTF-8, `toStringLossy` replaces each maximal
ill-formed part by U+FFFD.
-/

namespace Courier

/-- A string of octets, as it travels on a connection. -/
abbrev Bytes := List UInt8

namespace Bytes

/-- The UTF-8 encoding of a text. -/
def ofString (text : String) : Bytes :=
  text.toList.flatMap String.utf8EncodeChar

/-- The text whose characters have the octets as code points. -/
def latin1 (bytes : Bytes) : String :=
  String.ofList (bytes.map fun byte => Char.ofNat byte.toNat)

/-- Printable ASCII and the tab: the octets a header value may hold and still count as text. -/
def isVisible (byte : UInt8) : Bool :=
  (32 ≤ byte && byte ≤ 126) || byte == 9

/-- The text of a byte string of visible octets, and nothing for any other. -/
def visible? (bytes : Bytes) : Option String :=
  if bytes.all isVisible then some (latin1 bytes) else none

/-- What is left to read of a character whose first octets have been seen. -/
structure Partial where
  /-- Continuation octets still owed. -/
  owed : Nat
  /-- Least value of the next one. -/
  low : UInt8
  /-- Greatest value of the next one. -/
  high : UInt8
  /-- Bits of the code point read so far. -/
  bits : Nat
deriving DecidableEq, Repr

/-- How a first octet opens a character: whole, with more owed, or not at all. -/
inductive Opening where
  /-- The octet is a character. -/
  | whole (char : Char)
  /-- More octets follow. -/
  | opens (rest : Partial)
  /-- No character starts with the octet. -/
  | bad
deriving DecidableEq, Repr

/-- The role of an octet at the start of a character. -/
def opening (byte : UInt8) : Opening :=
  let value := byte.toNat
  if byte < 0x80 then .whole (Char.ofNat value)
  else if byte < 0xC2 then .bad
  else if byte < 0xE0 then .opens ⟨1, 0x80, 0xBF, value - 0xC0⟩
  else if byte == 0xE0 then .opens ⟨2, 0xA0, 0xBF, 0⟩
  else if byte == 0xED then .opens ⟨2, 0x80, 0x9F, 13⟩
  else if byte < 0xF0 then .opens ⟨2, 0x80, 0xBF, value - 0xE0⟩
  else if byte == 0xF0 then .opens ⟨3, 0x90, 0xBF, 0⟩
  else if byte < 0xF4 then .opens ⟨3, 0x80, 0xBF, value - 0xF0⟩
  else if byte == 0xF4 then .opens ⟨3, 0x80, 0x8F, 4⟩
  else .bad

/-- A decoding under way: the character being read, and the characters read, latest first, with
`none` for each maximal ill-formed part. -/
structure Decoding where
  /-- The character whose first octets have been seen. -/
  pending : Option Partial
  /-- What has been read, latest first. -/
  read : List (Option Char)
deriving Repr

/-- Reads an octet at the start of a character. -/
def Decoding.start (read : List (Option Char)) (byte : UInt8) : Decoding :=
  match opening byte with
  | .whole char => ⟨none, some char :: read⟩
  | .opens rest => ⟨some rest, read⟩
  | .bad => ⟨none, none :: read⟩

/-- Reads one octet.  An octet that cannot continue the pending character ends it as ill-formed
and is read again as a first octet. -/
def Decoding.feed (decoding : Decoding) (byte : UInt8) : Decoding :=
  match decoding.pending with
  | none => .start decoding.read byte
  | some rest =>
    if rest.low ≤ byte && byte ≤ rest.high then
      let bits := rest.bits * 64 + (byte.toNat - 0x80)
      if rest.owed ≤ 1 then ⟨none, some (Char.ofNat bits) :: decoding.read⟩
      else ⟨some ⟨rest.owed - 1, 0x80, 0xBF, bits⟩, decoding.read⟩
    else .start (none :: decoding.read) byte

/-- The characters read, in order; a character left open at the end is ill-formed. -/
def Decoding.finish (decoding : Decoding) : List (Option Char) :=
  match decoding.pending with
  | none => decoding.read.reverse
  | some _ => (none :: decoding.read).reverse

/-- The characters of a byte string, with `none` for each maximal ill-formed part. -/
def decode (bytes : Bytes) : List (Option Char) :=
  (bytes.foldl Decoding.feed ⟨none, []⟩).finish

/-- The text of a well-formed byte string. -/
def toString? (bytes : Bytes) : Option String :=
  let chars := decode bytes
  if chars.all Option.isSome then some (String.ofList (chars.filterMap id)) else none

/-- The text of a byte string, with U+FFFD for each maximal ill-formed part. -/
def toStringLossy (bytes : Bytes) : String :=
  String.ofList ((decode bytes).map fun char => char.getD '\uFFFD')

/-- Whether octets can begin a well-formed byte string. -/
def beginsText (bytes : Bytes) : Bool :=
  (bytes.foldl Decoding.feed ⟨none, []⟩).read.all Option.isSome

/-- The last octets of a number, most significant first. -/
def bigEndian : Nat → Nat → Bytes
  | 0, _ => []
  | width + 1, value => bigEndian width (value / 256) ++ [UInt8.ofNat (value % 256)]

/-- The number that octets stand for, most significant first. -/
def ofBigEndian (bytes : Bytes) : Nat :=
  bytes.foldl (fun value byte => value * 256 + byte.toNat) 0

/-- The number of octets of a text. -/
def sizeOf (text : String) : Nat := (ofString text).length

end Bytes

end Courier
