import Courier.Text.Ascii

/-!
# URLs

The parts of a parsed URL.  A URL of a special scheme always has a host and a path of segments;
any other may lack a host, and may have an opaque path that no reference can be resolved against.
-/

namespace Courier

namespace Url

/-- Why a text is no URL. -/
inductive ParseError where
  /-- The host is missing where one is needed. -/
  | emptyHost
  /-- The host is no domain name. -/
  | badDomain
  /-- The port is no number below 65536. -/
  | badPort
  /-- The host looks like an IPv4 address and is none. -/
  | badIpv4
  /-- The host is bracketed and no IPv6 address. -/
  | badIpv6
  /-- The opaque host holds a character that no host can hold. -/
  | badHostCharacter
  /-- A reference stands where a whole URL is needed. -/
  | relativeWithoutBase
  /-- A reference cannot be resolved against an opaque path. -/
  | relativeToOpaque
deriving DecidableEq, Repr

namespace ParseError

/-- A parse error in words. -/
def message : ParseError → String
  | emptyHost => "empty host"
  | badDomain => "invalid international domain name"
  | badPort => "invalid port number"
  | badIpv4 => "invalid IPv4 address"
  | badIpv6 => "invalid IPv6 address"
  | badHostCharacter => "invalid domain character"
  | relativeWithoutBase => "relative URL without a base"
  | relativeToOpaque => "relative URL with a cannot-be-a-base base"

end ParseError

/-- The host of a URL. -/
inductive Host where
  /-- A domain name, or the opaque host of a scheme that is not special. -/
  | domain (name : String)
  | ipv4 (address : UInt32)
  /-- An IPv6 address, as its eight pieces. -/
  | ipv6 (pieces : List UInt16)
deriving DecidableEq, Repr

/-- The path of a URL. -/
inductive Path where
  /-- A path that is one opaque text. -/
  | opaqueText (text : String)
  /-- A path of segments; each is written after a slash. -/
  | segments (parts : List String)
deriving DecidableEq, Repr

/-- A path as written. -/
def Path.text : Path → String
  | .opaqueText text => text
  | .segments parts => String.join (parts.map ("/" ++ ·))

/-- How the parser treats a scheme. -/
inductive SchemeKind where
  /-- The scheme of files. -/
  | file
  /-- Another scheme with a network host. -/
  | network
  /-- Any other scheme. -/
  | other
deriving DecidableEq, Repr

def schemeKind (scheme : String) : SchemeKind :=
  if scheme == "file" then .file
  else if scheme ∈ ["http", "https", "ws", "wss", "ftp"] then .network
  else .other

def SchemeKind.isSpecial : SchemeKind → Bool
  | .other => false
  | _ => true

/-- The port that a scheme implies. -/
def knownPort? (scheme : String) : Option UInt16 :=
  match scheme with
  | "http" | "ws" => some 80
  | "https" | "wss" => some 443
  | "ftp" => some 21
  | _ => none

end Url

/-- A parsed URL. -/
structure Url where
  /-- Scheme, in lower case. -/
  scheme : String
  /-- User name, percent-encoded. -/
  username : String := ""
  /-- Password, percent-encoded. -/
  password : String := ""
  /-- Host; nothing when it is absent or empty. -/
  host : Option Url.Host := none
  /-- Port, unless the scheme implies it. -/
  port : Option UInt16 := none
  path : Url.Path
  /-- Query, percent-encoded. -/
  query : Option String := none
  /-- Fragment, percent-encoded. -/
  fragment : Option String := none
deriving DecidableEq, Repr

namespace Url

/-- How the scheme of a URL is treated. -/
def kind (url : Url) : SchemeKind := schemeKind url.scheme

/-- The path as written. -/
def pathText (url : Url) : String := url.path.text

/-- The path and, where there is one, the query after a question mark. -/
def target (url : Url) : String :=
  match url.query with
  | none => url.pathText
  | some query => url.pathText ++ "?" ++ query

/-- The port named or implied. -/
def effectivePort? (url : Url) : Option UInt16 :=
  url.port <|> knownPort? url.scheme

end Url

end Courier
