import Courier.Idna.Domain
import Courier.Url.Ipv6
import Courier.Url.Percent

/-!
# Hosts of URLs

Reading the host of a URL.  Under a special scheme it is an IP address or a domain name in ASCII
form; under any other it is an IPv6 address or an opaque text.
-/

namespace Courier.Url

/-- Reads a bracketed IPv6 address; the opening bracket has been read. -/
def bracketed (afterBracket : List Char) : Except ParseError Host :=
  match afterBracket.reverse with
  | ']' :: inner =>
    match Ipv6.parse? inner.reverse with
    | some pieces => .ok (.ipv6 pieces)
    | none => .error .badIpv6
  | _ => .error .badIpv6

/-- Reads the host of a special scheme. -/
def parseHost (chars : List Char) : Except ParseError Host :=
  match chars with
  | '[' :: rest => bracketed rest
  | _ =>
    match (Bytes.toString? (unescape chars)).bind fun text => Idna.toAscii? text.toList with
    | none => .error .badDomain
    | some name =>
      if name.isEmpty then .error .emptyHost
      else if Ipv4.endsInNumber name.toList then
        match Ipv4.parse? name.toList with
        | some address => .ok (.ipv4 address)
        | none => .error .badIpv4
      else .ok (.domain name)

/-- A character that no opaque host can hold. -/
def isForbiddenInHost (char : Char) : Bool :=
  char ∈ ['\x00', '\t', '\n', '\r', ' ', '#', '/', ':', '<', '>', '?', '@', '[', '\\', ']', '^', '|']

/-- Reads the host of a scheme that is not special. -/
def parseOpaqueHost (chars : List Char) : Except ParseError Host :=
  match chars with
  | '[' :: rest => bracketed rest
  | _ =>
    if chars.any isForbiddenInHost then .error .badHostCharacter
    else .ok (.domain (escape controlSet chars))

/-- A host in the form it is dialed in. -/
def Host.text : Host → String
  | .domain name => name
  | .ipv4 address => Ipv4.text address
  | .ipv6 pieces => Ipv6.text pieces

end Courier.Url
