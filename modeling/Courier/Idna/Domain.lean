import Courier.Idna.Label
import Courier.Idna.Punycode

/-!
# Domain names

The ASCII form of a domain name in any script.  The name is mapped and composed, each of its labels
is checked, and those that are not ASCII are written in Punycode.
-/

namespace Courier.Idna

/-- Whether a character is ASCII. -/
def isAscii (char : Char) : Bool := char.toNat < 128

/-- The ASCII characters that no domain name may hold. -/
def isForbidden (char : Char) : Bool :=
  char.toNat ≤ 0x20 || char.toNat == 0x7f
    || char ∈ ['%', '#', '/', ':', '<', '>', '?', '@', '[', '\\', ']', '^', '|']

/-- A label of a domain name in both its forms. -/
structure Label where
  /-- As it is read. -/
  text : List Char
  ascii : List Char
deriving DecidableEq, Repr

/-- Cuts a name into its labels. -/
def labelTexts (chars : List Char) : List (List Char) :=
  match chars with
  | [] => [[]]
  | char :: rest =>
    match labelTexts rest with
    | [] => [[char]]
    | first :: others => if char == '.' then [] :: first :: others else (char :: first) :: others

/-- A label in both its forms, from either. -/
def Label.ofText? (text : List Char) : Option Label :=
  if asciiMark.isPrefixOf text then do
    guard (text.all isAscii)
    let decoded ← Punycode.decode? (text.drop asciiMark.length)
    guard (!decoded.all isAscii && isValidLabel decoded)
    return ⟨decoded, text⟩
  else if text.all isAscii then some ⟨text, text⟩
  else do
    guard (isValidLabel text)
    return ⟨text, asciiMark ++ (← Punycode.encode? text)⟩

/-- The ASCII form of a domain name, in lower case. -/
def toAscii? (chars : List Char) : Option String := do
  let name := Unicode.composed (← mapped? chars)
  guard (!name.any isForbidden)
  let labels ← (labelTexts name).mapM Label.ofText?
  let isTwoWay := labels.any fun label => label.text.any isRightward
  guard (!isTwoWay || labels.all fun label => keepsDirection label.text)
  return String.intercalate "." (labels.map fun label => String.ofList label.ascii)

end Courier.Idna
