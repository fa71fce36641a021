import Courier.Url.Basic

/-!
# IPv4 addresses in URLs

A host whose last label is a number is an IPv4 address or no host at all.  A label is read in
decimal, in octal after `0` and in hexadecimal after `0x`; the last one fills all octets that the
others leave.
-/

namespace Courier.Url.Ipv4

/-- The labels of a text between dots. -/
def labels (text : List Char) : List (List Char) := text.splitOn '.'

/-- The number a label stands for; a number beyond 32 bits is returned as it is. -/
def number? (label : List Char) : Option Nat :=
  match label with
  | [] => none
  | '0' :: 'x' :: digits | '0' :: 'X' :: digits =>
    if digits.all Ascii.isHexDigit then some (Ascii.ofDigits 16 digits) else none
  | '0' :: digit :: digits =>
    if (digit :: digits).all (fun d => '0' ≤ d && d ≤ '7') then
      some (Ascii.ofDigits 8 (digit :: digits))
    else none
  | digits => if digits.all Char.isDigit then some (Ascii.ofDigits 10 digits) else none

/-- The labels of a host, without the empty one that a final dot leaves. -/
def significantLabels (host : List Char) : List (List Char) :=
  let parts := labels host
  if parts.length > 1 && parts.getLast? == some [] then parts.dropLast else parts

/-- Whether the last label of a host is a number, so that the host must be an IPv4 address. -/
def endsInNumber (host : List Char) : Bool :=
  match (significantLabels host).getLast? with
  | none | some [] => false
  | some label => label.all Char.isDigit || (number? label).isSome

/-- The address that a list of numbers stands for: each but the last is one octet, and the last
fills the rest. -/
def ofNumbers? (numbers : List Nat) : Option UInt32 :=
  match numbers.reverse with
  | [] => none
  | last :: leading =>
    if numbers.length > 4 || leading.any (· > 255) then none
    else if last < Nat.pow 256 (4 - leading.length) then
      let high := leading.reverse.foldl (fun value octet => value * 256 + octet) 0
      some (UInt32.ofNat (high * Nat.pow 256 (4 - leading.length) + last))
    else none

/-- The address a host stands for. -/
def parse? (host : List Char) : Option UInt32 := do
  let numbers ← (significantLabels host).mapM number?
  ofNumbers? numbers

/-- The four octets of an address, in decimal between dots. -/
def text (address : UInt32) : String :=
  let value := address.toNat
  ".".intercalate ([value / 16777216, value / 65536 % 256, value / 256 % 256, value % 256].map
    toString)

end Courier.Url.Ipv4
