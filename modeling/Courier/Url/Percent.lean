import Courier.Bytes
import Courier.Text.Ascii

/-!
# Percent encoding

Each part of a URL has its own set of ASCII characters that are written as `%XX`; octets beyond
ASCII always are.
-/

namespace Courier.Url

/-- A set of ASCII characters that are written as escapes. -/
abbrev EscapeSet := Char → Bool

/-- Control characters. -/
def controlSet : EscapeSet := fun char => char.toNat < 32 || char.toNat == 127

/-- Characters escaped in a fragment. -/
def fragmentSet : EscapeSet := fun char => controlSet char || char ∈ [' ', '"', '<', '>', '\x60']

/-- Characters escaped in a query. -/
def querySet : EscapeSet := fun char => controlSet char || char ∈ [' ', '"', '#', '<', '>']

/-- Characters escaped in the query of a special scheme. -/
def specialQuerySet : EscapeSet := fun char => querySet char || char == '\''

/-- Characters escaped in a path. -/
def pathSet : EscapeSet := fun char => fragmentSet char || char ∈ ['#', '?', '\x7b', '\x7d']

/-- Characters escaped in a user name or password. -/
def userinfoSet : EscapeSet := fun char =>
  pathSet char || char ∈ ['/', ':', ';', '=', '@', '[', '\\', ']', '^', '|']

/-- An octet as an escape. -/
def escapeByte (byte : UInt8) : List Char :=
  ['%', Ascii.upperHexDigit (byte.toNat / 16), Ascii.upperHexDigit (byte.toNat % 16)]

/-- A character as a part of a URL writes it. -/
def escapeChar (set : EscapeSet) (char : Char) : List Char :=
  if char.toNat < 128 && !set char then [char]
  else (String.utf8EncodeChar char).flatMap escapeByte

/-- A text as a part of a URL writes it. -/
def escape (set : EscapeSet) (chars : List Char) : String :=
  String.ofList (chars.flatMap (escapeChar set))

/-- The octets of a text whose escapes stand for octets; a percent sign that opens no escape
stands for itself. -/
def unescape : List Char → Bytes
  | '%' :: high :: low :: rest =>
    if Ascii.isHexDigit high && Ascii.isHexDigit low then
      UInt8.ofNat (Ascii.digitValue high * 16 + Ascii.digitValue low) :: unescape rest
    else
      0x25 :: unescape (high :: low :: rest)
  | char :: rest => String.utf8EncodeChar char ++ unescape rest
  | [] => []

end Courier.Url
