import Courier.Http.Headers

/-!
# Reading lines

The lines that heads and trailers of messages are made of.  Octets may arrive in parts: a part
that could still become what is read asks for more, any other is refused at its first wrong octet.
-/

namespace Courier.Http

/-- Why octets cannot be read. -/
inductive HeadFault where
  /-- An octet stands where it must not. -/
  | malformed
  /-- There are more headers than allowed. -/
  | tooManyHeaders
deriving DecidableEq, Repr

/-- What reading came to. -/
inductive Scan (α : Type) where
  /-- The octets end before the end is reached. -/
  | more
  /-- No continuation can be read. -/
  | bad (fault : HeadFault)
  /-- A value was read; the rest follows it. -/
  | done (value : α) (rest : Bytes)
deriving Repr

namespace Scan

/-- Reads on after a value. -/
def andThen {α β : Type} (scan : Scan α) (next : α → Bytes → Scan β) : Scan β :=
  match scan with
  | more => more
  | bad fault => bad fault
  | done value rest => next value rest

/-- Carriage return. -/
def cr : UInt8 := 13

/-- Line feed. -/
def lf : UInt8 := 10

/-- An octet that may stand in a token. -/
def isToken (byte : UInt8) : Bool :=
  let char := Char.ofNat byte.toNat
  byte < 128 && (char.isAlphanum
    || char ∈ ['!', '#', '$', '%', '&', '\x27', '*', '+', '-', '.', '^', '_', '\x60', '|', '~'])

/-- An octet that may stand in a value: no control but the tab. -/
def isValueByte (byte : UInt8) : Bool := byte == 9 || (32 ≤ byte && byte != 127)

/-- A blank of a value. -/
def isBlank (byte : UInt8) : Bool := byte == 32 || byte == 9

/-- A decimal digit. -/
def isDigit (byte : UInt8) : Bool := 48 ≤ byte && byte ≤ 57

/-- Reads one given octet. -/
def expect (wanted : UInt8) : Bytes → Scan Unit
  | [] => .more
  | byte :: rest => if byte == wanted then .done () rest else .bad .malformed

/-- Reads given octets. -/
def expectAll : Bytes → Bytes → Scan Unit
  | [], bytes => .done () bytes
  | wanted :: others, bytes => (expect wanted bytes).andThen fun _ rest => expectAll others rest

/-- Skips empty lines. -/
def skipEmptyLines : Bytes → Scan Unit
  | [] => .more
  | byte :: rest =>
    if byte == lf then skipEmptyLines rest
    else if byte == cr then
      match rest with
      | [] => .more
      | next :: rest => if next == lf then skipEmptyLines rest else .bad .malformed
    else .done () (byte :: rest)

/-- Reads a number of digits. -/
def digits : Nat → Nat → Bytes → Scan Nat
  | 0, value, bytes => .done value bytes
  | _ + 1, _, [] => .more
  | count + 1, value, byte :: rest =>
    if isDigit byte then digits count (value * 10 + (byte.toNat - 48)) rest else .bad .malformed

/-- Reads octets of a class up to the end of the line.  The octets read so far come latest
first. -/
def line (allowed : UInt8 → Bool) : Bytes → Bytes → Scan Bytes
  | _, [] => .more
  | read, byte :: rest =>
    if byte == lf then .done read.reverse rest
    else if byte == cr then (expect lf rest).andThen fun _ rest => .done read.reverse rest
    else if allowed byte then line allowed (byte :: read) rest
    else .bad .malformed

/-- Reads the name of a header and the colon after it. -/
def name : Bytes → Bytes → Scan String
  | _, [] => .more
  | read, byte :: rest =>
    if byte == 58 && !read.isEmpty then .done (Bytes.latin1 read.reverse) rest
    else if isToken byte then name (byte :: read) rest
    else .bad .malformed

/-- A value without the blanks around it. -/
def trim (value : Bytes) : Bytes :=
  ((value.dropWhile isBlank).reverse.dropWhile isBlank).reverse

/-- Reads headers up to the empty line after them, with at most a number of lines.  The fields
read so far come latest first. -/
def fields (limit : Nat) : Nat → List (String × Bytes) → Bytes → Scan (List (String × Bytes))
  | 0, _, _ => .bad .tooManyHeaders
  | _ + 1, _, [] => .more
  | fuel + 1, read, byte :: rest =>
    if byte == lf then .done read.reverse rest
    else if byte == cr then (expect lf rest).andThen fun _ rest => .done read.reverse rest
    else
      (name [] (byte :: rest)).andThen fun name rest =>
        (line isValueByte [] rest).andThen fun value rest =>
          if read.length ≥ limit then .bad .tooManyHeaders
          else fields limit fuel ((name, trim value) :: read) rest

/-- Reads headers and the empty line after them. -/
def headers (limit : Nat) (bytes : Bytes) : Scan Headers :=
  (fields limit (limit + 2) [] bytes).andThen fun read rest => .done (.ofList read) rest

end Scan

end Courier.Http
