import Courier.Url.Ipv4

/-!
# IPv6 addresses

An address is eight pieces of sixteen bits.  `parse?` reads the text between the brackets of a
URL's host: one run of zeros may be left out at `::`, and the last two pieces may be written as an
IPv4 address.  `text` writes the longest run of at least two zeros as `::`.
-/

namespace Courier.Url.Ipv6

/-- The leading hexadecimal digits of a text, at most `limit` of them, and the rest. -/
def hexRun : Nat → List Char → List Char × List Char
  | limit + 1, char :: rest =>
    if Ascii.isHexDigit char then
      let (digits, others) := hexRun limit rest
      (char :: digits, others)
    else ([], char :: rest)
  | _, rest => ([], rest)

theorem hexRun_length (limit : Nat) (chars : List Char) :
    (hexRun limit chars).1.length + (hexRun limit chars).2.length = chars.length := by
  induction limit generalizing chars with
  | zero => cases chars <;> simp [hexRun]
  | succ limit ih =>
    cases chars with
    | nil => simp [hexRun]
    | cons char rest =>
      simp only [hexRun]
      split
      · have := ih rest
        simp only [List.length_cons]
        omega
      · simp

/-- A decimal octet without leading zeros. -/
def octet? (label : List Char) : Option Nat :=
  match label with
  | [] => none
  | '0' :: _ :: _ => none
  | digits =>
    if digits.all Char.isDigit && digits.length ≤ 3 then
      let value := Ascii.ofDigits 10 digits
      if value < 256 then some value else none
    else none

/-- Two pieces written as an IPv4 address. -/
def ipv4Tail? (chars : List Char) : Option (List UInt16) := do
  match ← (Ipv4.labels chars).mapM octet? with
  | [a, b, c, d] => some [UInt16.ofNat (a * 256 + b), UInt16.ofNat (c * 256 + d)]
  | _ => none

/-- The pieces on both sides of the gap; without a gap all stand on the left. -/
structure Reading where
  /-- Pieces before the gap. -/
  left : List UInt16
  /-- Pieces after the gap, if there is one. -/
  right : Option (List UInt16)
deriving Repr

namespace Reading

/-- Pieces accounted for; the gap stands for at least one. -/
def size (reading : Reading) : Nat :=
  reading.left.length + (reading.right.map (·.length + 1)).getD 0

/-- Adds pieces at the end. -/
def push (reading : Reading) (pieces : List UInt16) : Reading :=
  match reading.right with
  | none => ⟨reading.left ++ pieces, none⟩
  | some right => ⟨reading.left, some (right ++ pieces)⟩

/-- The eight pieces, with zeros in the gap. -/
def close (reading : Reading) : Option (List UInt16) :=
  match reading.right with
  | none => if reading.left.length == 8 then some reading.left else none
  | some right =>
    if reading.size ≤ 8 then
      some (reading.left ++ List.replicate (8 - reading.left.length - right.length) 0 ++ right)
    else none

end Reading

/-- Reads pieces from the start of one to the end. -/
def readPieces (reading : Reading) (chars : List Char) : Option Reading :=
  match chars with
  | [] => some reading
  | ':' :: rest =>
    if reading.size ≥ 8 || reading.right.isSome then none
    else readPieces ⟨reading.left, some []⟩ rest
  | char :: rest =>
    if reading.size ≥ 8 then none
    else
      let run := hexRun 4 (char :: rest)
      let piece := UInt16.ofNat (Ascii.ofDigits 16 run.1)
      match _h : run.2 with
      | [] => some (reading.push [piece])
      | ':' :: next :: others =>
        if run.1.isEmpty then none else readPieces (reading.push [piece]) (next :: others)
      | '.' :: _ =>
        if run.1.isEmpty || reading.size > 6 then none
        else (ipv4Tail? (char :: rest)).map reading.push
      | _ => none
termination_by chars.length
decreasing_by
  · simp
  · have total := hexRun_length 4 (char :: rest)
    have left : (hexRun 4 (char :: rest)).2.length = others.length + 2 := by
      rw [show (hexRun 4 (char :: rest)).2 = ':' :: next :: others from _h]; simp
    simp only [List.length_cons] at total ⊢
    omega

/-- The address a text stands for. -/
def parse? (chars : List Char) : Option (List UInt16) :=
  match chars with
  | ':' :: ':' :: rest => (readPieces ⟨[], some []⟩ rest).bind Reading.close
  | ':' :: _ => none
  | [] | [_] => none
  | _ => (readPieces ⟨[], none⟩ chars).bind Reading.close

/-- The start and length of the longest run of zeros; the first one where several are longest. -/
def longestZeroRun (pieces : List UInt16) : Nat × Nat :=
  (List.range pieces.length).foldl (fun best start =>
    let length := ((pieces.drop start).takeWhile (· == 0)).length
    if length > best.2 then (start, length) else best) (0, 0)

/-- A piece in hexadecimal. -/
def pieceText (piece : UInt16) : String := String.ofList (Nat.toDigits 16 piece.toNat)

/-- Pieces between colons. -/
def piecesText (pieces : List UInt16) : String := ":".intercalate (pieces.map pieceText)

/-- An address as a host.  One that stands for an IPv4 address shows that address. -/
def text (pieces : List UInt16) : String :=
  match pieces with
  | [0, 0, 0, 0, 0, 0xffff, high, low] =>
    "::ffff:" ++ Ipv4.text (UInt32.ofNat (high.toNat * 65536 + low.toNat))
  | _ =>
    let (start, length) := longestZeroRun pieces
    if length < 2 then piecesText pieces
    else piecesText (pieces.take start) ++ "::" ++ piecesText (pieces.drop (start + length))

end Courier.Url.Ipv6
