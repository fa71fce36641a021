/-!
# Punycode

A label that is not ASCII is written in ASCII: first its ASCII characters, then, after a hyphen, the
others in ascending order, each as the number of places that a cursor over characters and positions
passes by on its way there.  The numbers have digits of growing weight, with thresholds that adapt
to the numbers so far.
-/

namespace Courier.Idna.Punycode

/-- Number of digits. -/
def base : Nat := 36

def firstBias : Nat := 72

/-- First code point that is not ASCII. -/
def firstCode : Nat := 128

/-- Numbers stay below this bound. -/
def bound : Nat := UInt32.size

/-- The value of a digit. -/
def digit? (char : Char) : Option Nat :=
  if char.isLower then some (char.toNat - 'a'.toNat)
  else if char.isUpper then some (char.toNat - 'A'.toNat)
  else if char.isDigit then some (char.toNat - '0'.toNat + 26)
  else none

def digit (value : Nat) : Char :=
  if value < 26 then Char.ofNat ('a'.toNat + value) else Char.ofNat ('0'.toNat + (value - 26))

/-- The digit at a place ends its number if it is below this threshold. -/
def threshold (place bias : Nat) : Nat :=
  if place ≤ bias then 1 else if bias + 26 ≤ place then 26 else place - bias

/-- A threshold is at least one. -/
theorem threshold_pos (place bias : Nat) : 0 < threshold place bias := by
  unfold threshold
  split
  · omega
  · split <;> omega

/-- Brings a distance down to where it leaves a bias. -/
def settleBias (distance bias : Nat) : Nat :=
  if 455 < distance then settleBias (distance / 35) (bias + base)
  else bias + base * distance / (distance + 38)
termination_by distance
decreasing_by omega

/-- The bias after a distance that led to one of a number of characters. -/
def adapt (distance count : Nat) (isFirst : Bool) : Nat :=
  let damped := if isFirst then distance / 700 else distance / 2
  settleBias (damped + damped / count) 0

/-! ## Reading -/

/-- Reads a number; the rest of the text follows it. -/
def readNumber (bias : Nat) (place weight value : Nat) : List Char → Option (Nat × List Char)
  | [] => none
  | char :: rest =>
    match digit? char with
    | none => none
    | some amount =>
      let value := value + amount * weight
      let threshold := threshold place bias
      if bound ≤ value then none
      else if amount < threshold then some (value, rest)
      else if bound ≤ weight * (base - threshold) then none
      else readNumber bias (place + base) (weight * (base - threshold)) value rest

/-- A number is followed by a shorter text. -/
theorem length_readNumber {bias place weight value : Nat} {chars rest : List Char} {number : Nat}
    (h : readNumber bias place weight value chars = some (number, rest)) :
    rest.length < chars.length := by
  induction chars generalizing place weight value with
  | nil => simp [readNumber] at h
  | cons char tail ih =>
    unfold readNumber at h
    split at h
    · simp at h
    · simp only at h
      split at h
      · simp at h
      · split at h
        · simp only [Option.some.injEq, Prod.mk.injEq] at h
          simp [h.2]
        · split at h
          · simp at h
          · have := ih h
            simp only [List.length_cons]
            omega

/-- The character of a code point, if it is one. -/
def charOf? (code : Nat) : Option Char :=
  if code.isValidChar then some (Char.ofNat code) else none

/-- Reads the numbers and puts each character where its number leads from the last one. -/
def insertAll (chars : List Char) (code position bias : Nat) (rest : List Char) :
    Option (List Char) :=
  match rest with
  | [] => some chars
  | next :: more =>
    match h : readNumber bias base 1 0 (next :: more) with
    | none => none
    | some (distance, remaining) =>
      have := length_readNumber h
      let count := chars.length + 1
      let target := position + distance
      let place := target % count
      match charOf? (code + target / count) with
      | none => none
      | some char =>
        insertAll (chars.take place ++ char :: chars.drop place) (code + target / count) (place + 1)
          (adapt distance count (position == 0)) remaining
termination_by rest.length
decreasing_by assumption

/-- Longest text that is read. -/
def longestRead : Nat := 2000

/-- The ASCII part of a text and its numbers.  The last hyphen divides them, unless it comes
first. -/
def divide (chars : List Char) : List Char × List Char :=
  let numbers := (chars.reverse.takeWhile (· != '-')).reverse
  match chars.take (chars.length - numbers.length) with
  | [] | ['-'] => ([], chars)
  | before => (before.dropLast, numbers)

/-- Reads a text. -/
def decode? (chars : List Char) : Option (List Char) :=
  if longestRead < chars.length then none
  else
    let (ascii, numbers) := divide chars
    insertAll ascii firstCode 0 firstBias numbers

/-! ## Writing -/

def writeNumber (bias place value : Nat) : List Char :=
  let threshold := threshold place bias
  if value < threshold then [digit value]
  else
    digit (threshold + (value - threshold) % (base - threshold))
      :: writeNumber bias (place + base) ((value - threshold) / (base - threshold))
termination_by value
decreasing_by
  have := threshold_pos place bias
  have := Nat.div_le_self (value - Punycode.threshold place bias)
    (base - Punycode.threshold place bias)
  omega

/-- What has been written of a text. -/
structure Writing where
  /-- The numbers, last one first. -/
  numbers : List (List Char) := []
  /-- Places passed since the last number. -/
  distance : Nat := 0
  bias : Nat := firstBias
  /-- Characters that are accounted for. -/
  count : Nat
  /-- Code point up to which all characters are accounted for. -/
  code : Nat := firstCode

/-- Passes by a character in search of those of a code point. -/
def Writing.pass (writing : Writing) (char : Char) : Writing :=
  if char.toNat < writing.code then { writing with distance := writing.distance + 1 }
  else if char.toNat == writing.code then
    { writing with
      numbers := writeNumber writing.bias base writing.distance :: writing.numbers
      distance := 0
      bias := adapt writing.distance (writing.count + 1) writing.numbers.isEmpty
      count := writing.count + 1 }
  else writing

/-- Writes all characters of a code point. -/
def Writing.writeCode (chars : List Char) (writing : Writing) (code : Nat) : Writing :=
  let writing := { writing with
    distance := writing.distance + (code - writing.code) * (writing.count + 1)
    code }
  let writing := chars.foldl Writing.pass writing
  { writing with distance := writing.distance + 1, code := code + 1 }

/-- Longest text that is written. -/
def longestWritten : Nat := 1000

/-- Writes a text. -/
def encode? (chars : List Char) : Option (List Char) :=
  if longestWritten < chars.length then none
  else
    let ascii := chars.filter (·.toNat < firstCode)
    let codes := ((chars.filter (firstCode ≤ ·.toNat)).map Char.toNat).mergeSort.eraseReps
    let writing := codes.foldl (Writing.writeCode chars) { count := ascii.length }
    some (ascii ++ (if ascii.isEmpty then [] else ['-']) ++ writing.numbers.reverse.flatten)

end Courier.Idna.Punycode
