import Courier.Url.Host

/-!
# Parsing URLs

`parse` reads a whole URL and `join` resolves a reference against one.  Leading and trailing
blanks and all tabs and line breaks are dropped first.  A backslash counts as a slash in the
authority and the path of a special scheme.
-/

namespace Courier.Url

/-- A character that is dropped at both ends. -/
def isOuterBlank (char : Char) : Bool := char.toNat ≤ 32

/-- The characters of a text that take part in parsing. -/
def significant (text : String) : List Char :=
  let trimmed := ((text.toList.dropWhile isOuterBlank).reverse.dropWhile isOuterBlank).reverse
  trimmed.filter fun char => char ∉ ['\t', '\n', '\r']

/-- Reads a scheme and the colon after it; returns the scheme in lower case and the rest. -/
def splitScheme? (chars : List Char) : Option (String × List Char) :=
  let isSchemeChar (char : Char) : Bool := char.isAlphanum || char ∈ ['+', '-', '.']
  match chars.takeWhile isSchemeChar, chars.dropWhile isSchemeChar with
  | first :: others, ':' :: rest =>
    if first.isAlpha then some (String.ofList ((first :: others).map Char.toLower), rest) else none
  | _, _ => none

/-- Whether a character separates path segments. -/
def isSlash (kind : SchemeKind) (char : Char) : Bool :=
  char == '/' || (char == '\\' && kind.isSpecial)

/-- Whether a character ends an authority. -/
def endsAuthority (kind : SchemeKind) (char : Char) : Bool :=
  isSlash kind char || char == '?' || char == '#'

/-! ## Authority -/

/-- The user information of a URL, percent-encoded. -/
structure UserInfo where
  /-- User name. -/
  username : String := ""
  password : String := ""
deriving DecidableEq, Repr

/-- Whether there is neither a user name nor a password. -/
def UserInfo.isEmpty (info : UserInfo) : Bool := info.username.isEmpty && info.password.isEmpty

/-- The user information of the text before the last at-sign of an authority. -/
def UserInfo.ofChars (chars : List Char) : UserInfo :=
  ⟨escape userinfoSet (chars.takeWhile (· != ':')),
    escape userinfoSet ((chars.dropWhile (· != ':')).drop 1)⟩

/-- Splits a text that starts with an authority after the last at-sign of that authority. -/
def splitUserInfo (kind : SchemeKind) (chars : List Char) :
    Except ParseError (UserInfo × List Char) :=
  let authority := chars.takeWhile fun char => !endsAuthority kind char
  let rest := chars.dropWhile fun char => !endsAuthority kind char
  if !authority.contains '@' then .ok ({}, chars)
  else
    let reversed := authority.reverse
    let host := (reversed.takeWhile (· != '@')).reverse
    let info := ((reversed.dropWhile (· != '@')).drop 1).reverse
    if info.isEmpty && host.isEmpty && !rest.isEmpty then .error .emptyHost
    else .ok (UserInfo.ofChars info, host ++ rest)

/-- The length of the host at the start of a text; a colon between brackets belongs to it. -/
def hostLength (kind : SchemeKind) (inBrackets : Bool) : List Char → Nat
  | [] => 0
  | char :: rest =>
    if (char == ':' && !inBrackets) || endsAuthority kind char then 0
    else hostLength kind (char == '[' || (inBrackets && char != ']')) rest + 1

/-- Reads a port up to the end of the authority; the colon has been read.  A port that the scheme
implies is no port. -/
def readPort (scheme : String) (value : Option Nat) : List Char →
    Except ParseError (Option UInt16 × List Char)
  | [] => .ok (named value, [])
  | char :: rest =>
    if char.isDigit then
      let next := value.getD 0 * 10 + Ascii.digitValue char
      if next > 65535 then .error .badPort else readPort scheme (some next) rest
    else if char ∈ ['/', '\\', '?', '#'] then .ok (named value, char :: rest)
    else .error .badPort
where
  /-- The port that the digits name, unless the scheme implies it. -/
  named (value : Option Nat) : Option UInt16 :=
    (value.map UInt16.ofNat).filter fun port => knownPort? scheme != some port

/-- A host, where an empty name counts as none. -/
def present? : Host → Option Host
  | .domain "" => none
  | host => some host

/-- Reads a host and a port. -/
def readHostAndPort (scheme : String) (chars : List Char) :
    Except ParseError (Option Host × Option UInt16 × List Char) := do
  let kind := schemeKind scheme
  let length := hostLength kind false chars
  let hostChars := chars.take length
  let rest := chars.drop length
  if hostChars.isEmpty && kind.isSpecial then throw .emptyHost
  let host ← if kind.isSpecial then parseHost hostChars else parseOpaqueHost hostChars
  match rest with
  | ':' :: portChars =>
    if hostChars.isEmpty then throw .emptyHost
    let (port, rest) ← readPort scheme none portChars
    return (present? host, port, rest)
  | _ => return (present? host, none, rest)

/-! ## Path, query and fragment -/

/-- A segment that stands for the one it is in. -/
def isSingleDot (segment : String) : Bool := Ascii.lower segment ∈ [".", "%2e"]

/-- A segment that stands for the one above. -/
def isDoubleDot (segment : String) : Bool :=
  Ascii.lower segment ∈ ["..", "%2e.", ".%2e", "%2e%2e"]

/-- A letter and a colon or bar. -/
def isDriveLetter (segment : List Char) : Bool :=
  match segment with
  | [letter, mark] => letter.isAlpha && (mark == ':' || mark == '|')
  | _ => false

/-- The segments so far with the last one dropped; the drive of a file URL stays. -/
def dropSegment (kind : SchemeKind) (segments : List String) : List String :=
  match kind, segments with
  | .file, [drive] => if isDriveLetter drive.toList then [drive] else []
  | _, _ => segments.dropLast

/-- Adds a segment, which a slash follows or not.  Dots move up or stay; at the end of the path
they leave an empty segment. -/
def addSegment (kind : SchemeKind) (segments : List String) (segment : List Char)
    (slashFollows : Bool) : List String :=
  let written := escape pathSet segment
  let tail := if slashFollows then [] else [""]
  if isDoubleDot written then dropSegment kind segments ++ tail
  else if isSingleDot written then segments ++ tail
  else if kind == .file && segments.isEmpty && isDriveLetter segment then
    segments ++ [String.ofList (segment.take 1) ++ ":"]
  else segments ++ [written]

/-- Reads path segments up to a question mark or number sign. -/
def readSegments (kind : SchemeKind) (segments : List String) (segment : List Char) :
    List Char → List String × List Char
  | [] => (addSegment kind segments segment.reverse false, [])
  | char :: rest =>
    if isSlash kind char then
      readSegments kind (addSegment kind segments segment.reverse true) [] rest
    else if char == '?' || char == '#' then
      (addSegment kind segments segment.reverse false, char :: rest)
    else readSegments kind segments (char :: segment) rest

/-- Reads a path onto the segments of another; a slash at its start opens the first segment. -/
def readPath (kind : SchemeKind) (segments : List String) (chars : List Char) :
    List String × List Char :=
  match chars with
  | [] => readSegments kind segments [] []
  | char :: rest =>
    if isSlash kind char then readSegments kind segments [] rest
    else readSegments kind segments [] (char :: rest)

/-- Reads the path after an authority; only a scheme that is not special may have none. -/
def readPathStart (kind : SchemeKind) (chars : List Char) : List String × List Char :=
  match kind, chars with
  | .other, [] => ([], [])
  | .other, '?' :: rest => ([], '?' :: rest)
  | .other, '#' :: rest => ([], '#' :: rest)
  | kind, chars => readPath kind [] chars

/-- Reads the query and the fragment, which end every URL. -/
def readTail (kind : SchemeKind) (chars : List Char) : Option String × Option String :=
  let set := if kind.isSpecial then specialQuerySet else querySet
  match chars with
  | '?' :: rest =>
    let query := rest.takeWhile (· != '#')
    let fragment := match rest.dropWhile (· != '#') with
      | _ :: text => some (escape fragmentSet text)
      | [] => none
    (some (escape set query), fragment)
  | '#' :: rest => (none, some (escape fragmentSet rest))
  | _ => (none, none)

/-! ## Whole URLs -/

/-- Reads what follows the two slashes before an authority. -/
def readAuthority (scheme : String) (chars : List Char) : Except ParseError Url := do
  let kind := schemeKind scheme
  let (info, chars) ← splitUserInfo kind chars
  let (host, port, chars) ← readHostAndPort scheme chars
  if host.isNone && !info.isEmpty then throw .emptyHost
  let (segments, chars) := readPathStart kind chars
  let (query, fragment) := readTail kind chars
  return { scheme, username := info.username, password := info.password, host, port,
           path := .segments segments, query, fragment }

/-- Reads what follows the colon of a scheme that is not special. -/
def readOther (scheme : String) (chars : List Char) : Except ParseError Url :=
  match chars with
  | '/' :: '/' :: rest => readAuthority scheme rest
  | '/' :: rest =>
    let (segments, rest) := readSegments .other [] [] rest
    let (query, fragment) := readTail .other rest
    .ok { scheme, path := .segments segments, query, fragment }
  | _ =>
    let text := chars.takeWhile fun char => char != '?' && char != '#'
    let rest := chars.dropWhile fun char => char != '?' && char != '#'
    let (query, fragment) := readTail .other rest
    .ok { scheme, path := .opaqueText (escape controlSet text), query, fragment }

/-- The host and path of a file URL after its two slashes.  A drive letter is a path segment, and
the local machine needs no name. -/
def readFileAuthority (chars : List Char) : Except ParseError (Option Host × List Char) := do
  let isEnd (char : Char) : Bool := endsAuthority .file char
  let hostChars := chars.takeWhile fun char => !isEnd char
  let rest := chars.dropWhile fun char => !isEnd char
  if isDriveLetter hostChars then return (none, chars)
  if hostChars.isEmpty then return (none, rest)
  match ← parseHost hostChars with
  | .domain "localhost" => return (none, rest)
  | host => return (some host, rest)

/-- Whether the first segment is a drive. -/
def startsWithDrive : List String → Bool
  | drive :: _ => isDriveLetter drive.toList
  | [] => false

/-- Empty segments at the start of a file path are dropped. -/
def fileSegments (segments : List String) : List String :=
  match segments.dropWhile String.isEmpty with
  | [] => [""]
  | kept => kept

/-- The segments of a path, none where it is opaque. -/
def segmentsOf : Path → List String
  | .segments segments => segments
  | .opaqueText _ => []

/-- A file URL whose path is read onto some segments. -/
def fileUrl (host : Option Host) (segments : List String) (chars : List Char) : Url :=
  let (segments, chars) := readPath .file segments chars
  let segments := fileSegments segments
  let (query, fragment) := readTail .file chars
  { scheme := "file", host := if startsWithDrive segments then none else host,
    path := .segments segments, query, fragment }

/-- The file URL that a reference without a host stands for. -/
def fileReference (base : Option Url) (chars : List Char) : Url :=
  match base, chars with
  | none, _ => fileUrl none [] chars
  | some base, [] => { base with fragment := none }
  | some base, first :: rest =>
    let baseSegments := segmentsOf base.path
    if isSlash .file first then
      if startsWithDrive baseSegments then fileUrl none (baseSegments.take 1) rest
      else fileUrl base.host [] rest
    else if first == '?' || first == '#' then
      let (query, fragment) := readTail .file chars
      { base with query := if first == '?' then query else base.query, fragment }
    else if isDriveLetter (chars.take 2) then fileUrl none [] chars
    else fileUrl base.host (dropSegment .file baseSegments) chars

/-- Reads what follows the colon of a file URL. -/
def readFile (base : Option Url) (chars : List Char) : Except ParseError Url :=
  match chars with
  | first :: second :: rest =>
    if isSlash .file first && isSlash .file second then do
      let (host, rest) ← readFileAuthority rest
      return fileUrl host [] rest
    else .ok (fileReference base chars)
  | _ => .ok (fileReference base chars)

/-- Resolves a reference without a scheme against a base with a path of segments. -/
def readRelative (base : Url) (chars : List Char) : Except ParseError Url :=
  let kind := base.kind
  let isAnySlash (char : Char) : Bool := char == '/' || char == '\\'
  let finish (segments : List String) (chars : List Char) : Except ParseError Url :=
    let (segments, chars) := readSegments kind segments [] chars
    let (query, fragment) := readTail kind chars
    .ok { base with path := .segments segments, query, fragment }
  match chars with
  | [] => .ok { base with fragment := none }
  | '?' :: _ =>
    let (query, fragment) := readTail kind chars
    .ok { base with query, fragment }
  | '#' :: rest => .ok { base with fragment := some (escape fragmentSet rest) }
  | '/' :: '/' :: rest => readAuthority base.scheme rest
  | first :: second :: rest =>
    if isAnySlash first && isAnySlash second then
      readAuthority base.scheme (rest.dropWhile isAnySlash)
    else if isAnySlash first then finish [] (second :: rest)
    else finish (segmentsOf base.path).dropLast chars
  | [first] =>
    if isAnySlash first then finish [] [] else finish (segmentsOf base.path).dropLast chars

/-- Reads what follows a scheme and its colon. -/
def readAfterScheme (base : Option Url) (scheme : String) (chars : List Char) :
    Except ParseError Url :=
  match schemeKind scheme with
  | .file => readFile (base.filter (·.scheme == "file")) chars
  | .other => readOther scheme chars
  | .network =>
    let slashes := chars.takeWhile (isSlash .network)
    match base with
    | some base =>
      if slashes.length < 2 && base.scheme == scheme then readRelative base chars
      else readAuthority scheme (chars.drop slashes.length)
    | none => readAuthority scheme (chars.drop slashes.length)

/-- Reads a whole URL. -/
def parse (text : String) : Except ParseError Url :=
  match splitScheme? (significant text) with
  | some (scheme, rest) => readAfterScheme none scheme rest
  | none => .error .relativeWithoutBase

/-- Resolves a reference against a URL. -/
def join (base : Url) (reference : String) : Except ParseError Url :=
  let chars := significant reference
  match splitScheme? chars with
  | some (scheme, rest) => readAfterScheme (some base) scheme rest
  | none =>
    match chars, base.path with
    | '#' :: rest, _ => .ok { base with fragment := some (escape fragmentSet rest) }
    | _, .opaqueText _ => .error .relativeToOpaque
    | _, .segments _ =>
      if base.kind == .file then readFile (some base) chars else readRelative base chars

/-- The host of a URL in the form it is dialed in. -/
def hostText? (url : Url) : Option String := url.host.map Host.text

end Courier.Url
