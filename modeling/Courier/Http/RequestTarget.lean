import Courier.Bytes
import Courier.Text.Ascii

/-!
# Request targets

The target of a request is a path, an asterisk, an authority or an absolute URI.  `parse` decides
which texts can be sent; `text` is what is written on the request line, where an absolute URI
without a path gets the path `/`.
-/

namespace Courier.Http

/-- Why a text cannot be a request target. -/
inductive TargetError where
  /-- There is no text. -/
  | empty
  /-- The text is longer than 65534 octets. -/
  | tooLong
  /-- A character is in no place of a target. -/
  | badCharacter
  /-- The authority is malformed. -/
  | badAuthority
  /-- A part is missing or misplaced. -/
  | badFormat
  /-- The scheme is longer than 64 characters. -/
  | longScheme
deriving DecidableEq, Repr

namespace TargetError

/-- A target error in words. -/
def message : TargetError → String
  | empty => "empty string"
  | tooLong => "uri too long"
  | badCharacter => "invalid uri character"
  | badAuthority => "invalid authority"
  | badFormat => "invalid format"
  | longScheme => "scheme too long"

end TargetError

structure RequestTarget where
  /-- Scheme of an absolute URI. -/
  scheme : Option String := none
  /-- Authority of an absolute URI or of a bare authority; empty for a path. -/
  authority : String := ""
  /-- Path as given, which may be empty in an absolute URI. -/
  path : String := ""
  /-- Query after the question mark. -/
  query : Option String := none
deriving DecidableEq, Repr

namespace RequestTarget

/-- A character that may stand in an authority. -/
def isAuthorityChar (char : Char) : Bool :=
  char.isAlphanum || char ∈ ['!', '$', '&', '\'', '(', ')', '*', '+', ',', '-', '.', ':', ';', '=',
    '@', '[', ']', '_', '~']

/-- What has been seen of an authority. -/
structure AuthorityScan where
  /-- Colons since the user information or the closing bracket. -/
  colons : Nat := 0
  /-- Whether a bracket has opened. -/
  opened : Bool := false
  /-- Whether a bracket has closed. -/
  closed : Bool := false
  /-- Whether an escape stands outside user information and brackets. -/
  escaped : Bool := false
  /-- Whether the latest character was an at-sign. -/
  endsAtSign : Bool := false
deriving Repr

/-- Reads one character of an authority. -/
def AuthorityScan.feed (scan : AuthorityScan) (char : Char) : Except TargetError AuthorityScan :=
  let scan := { scan with endsAtSign := false }
  match char with
  | ':' =>
    if scan.colons ≥ 8 then .error .badAuthority else .ok { scan with colons := scan.colons + 1 }
  | '[' =>
    if scan.escaped || scan.opened then .error .badAuthority else .ok { scan with opened := true }
  | ']' =>
    if !scan.opened || scan.closed then .error .badAuthority
    else .ok { scan with closed := true, colons := 0, escaped := false }
  | '@' => .ok { scan with colons := 0, escaped := false, endsAtSign := true }
  | '%' => .ok { scan with escaped := true }
  | other => if isAuthorityChar other then .ok scan else .error .badCharacter

/-- Checks an authority.  A port colon may occur once, brackets must match, user information must
be followed by a host, and escapes belong to user information or brackets. -/
def checkAuthority (chars : List Char) : Except TargetError Unit := do
  let scan ← chars.foldlM AuthorityScan.feed {}
  if scan.opened != scan.closed || scan.colons > 1 || scan.endsAtSign || scan.escaped then
    throw .badAuthority

/-- A character that may stand in a path. -/
def isPathChar (char : Char) : Bool :=
  let code := char.toNat
  code == 0x21 || code == 0x22 || (0x24 ≤ code && code ≤ 0x3B) || code == 0x3D
    || (0x40 ≤ code && code ≤ 0x5F) || (0x61 ≤ code)

/-- A character that may stand in a query. -/
def isQueryChar (char : Char) : Bool :=
  let code := char.toNat
  code == 0x21 || (0x24 ≤ code && code ≤ 0x3B) || code == 0x3D || 0x3F ≤ code

/-- Reads a path and query; a fragment is dropped. -/
def readPath (target : RequestTarget) (chars : List Char) : Except TargetError RequestTarget := do
  let isMark (char : Char) : Bool := char == '?' || char == '#'
  let path := chars.takeWhile fun char => !isMark char
  if !path.all isPathChar then throw .badCharacter
  let target := { target with path := String.ofList path }
  match chars.dropWhile fun char => !isMark char with
  | '?' :: rest =>
    let query := rest.takeWhile (· != '#')
    if !query.all isQueryChar then throw .badCharacter
    return { target with query := some (String.ofList query) }
  | _ => return target

/-- A character that may stand in a scheme. -/
def isSchemeChar (char : Char) : Bool := char.isAlphanum || char ∈ ['+', '-', '.', '~']

/-- Splits a scheme and `://` off a text. -/
def splitScheme (chars : List Char) : Except TargetError (Option (String × List Char)) := do
  let scheme := chars.takeWhile isSchemeChar
  match chars.dropWhile isSchemeChar with
  | ':' :: '/' :: '/' :: rest =>
    let lower := scheme.map Char.toLower
    if lower == ['h', 't', 't', 'p'] || lower == ['h', 't', 't', 'p', 's'] then
      return some (String.ofList lower, rest)
    if chars.length ≤ 3 then return none
    if scheme.length > 64 then throw .longScheme
    return some (String.ofList scheme, rest)
  | _ => return none

/-- Reads a request target. -/
def parse (text : String) : Except TargetError RequestTarget := do
  if text.utf8ByteSize > 65534 then throw .tooLong
  let isEnd (char : Char) : Bool := char == '/' || char == '?' || char == '#'
  match text.toList with
  | [] => throw .empty
  | ['*'] => return { path := "*" }
  | '/' :: rest => readPath {} ('/' :: rest)
  | [char] =>
    checkAuthority (if isEnd char then [] else [char])
    if isEnd char then throw .badCharacter
    return { authority := text }
  | chars =>
    match ← splitScheme chars with
    | none =>
      let authority := chars.takeWhile fun char => !isEnd char
      checkAuthority authority
      if authority.length != chars.length then throw .badFormat
      return { authority := text }
    | some (scheme, rest) =>
      let authority := rest.takeWhile fun char => !isEnd char
      checkAuthority authority
      if authority.isEmpty then throw .badFormat
      readPath { scheme := some scheme, authority := String.ofList authority }
        (rest.drop authority.length)

/-- The query with its question mark. -/
private def queryText (target : RequestTarget) : String :=
  (target.query.map ("?" ++ ·)).getD ""

/-- The path as it is sent: an absolute URI always has one. -/
def pathText (target : RequestTarget) : String :=
  if target.path.isEmpty && (target.scheme.isSome || target.query.isSome) then "/" else target.path

/-- A target as the request line shows it. -/
def text (target : RequestTarget) : String :=
  (target.scheme.map (· ++ "://")).getD "" ++ target.authority ++ target.pathText
    ++ queryText target

/-- The path and query alone; a target without both has the path `/`. -/
def pathAndQuery (target : RequestTarget) : String :=
  let written := target.path ++ queryText target
  if written.isEmpty then "/" else written

end RequestTarget

end Courier.Http
