import Courier.Digest.Sha1
import Courier.Http.Outgoing
import Courier.Link.Pipe
import Courier.Text.Base64
import Courier.WebSocket.Options
import Courier.WebSocket.Session

/-!
# Opening a WebSocket

The request that asks a server for a WebSocket, and what its answer must say.  Five headers of
the request belong to the protocol; whatever the caller put under their names is left out.
-/

namespace Courier.WebSocket

open Http (Headers RequestTarget ResponseHead)

/-- Headers that belong to the protocol, in the order in which they are written. -/
def protocolHeaders : List (String × String) := [
  ("host", "Host"),
  ("connection", "Connection"),
  ("upgrade", "Upgrade"),
  ("sec-websocket-version", "Sec-WebSocket-Version"),
  ("sec-websocket-key", "Sec-WebSocket-Key")]

/-- The name of the header that offers sub-protocols. -/
def subProtocolHeader : String := "sec-websocket-protocol"

/-- What a server appends to a key before it digests it. -/
def acceptSuffix : String := "258EAFA5-E914-47DA-95CA-C5AB0DC85B11"

/-- The answer to a key. -/
def acceptOf (key : String) : String :=
  Base64.encode (Sha1.digest (Bytes.ofString (key ++ acceptSuffix)))

/-- The host that an authority names: what follows the user information. -/
def hostOfAuthority (authority : String) : String :=
  let chars := authority.toList
  match chars.dropWhile (· != '@') with
  | _ :: host => String.ofList host
  | [] => authority

/-- A handshake: what is sent and what is expected back. -/
structure Handshake where
  /-- Octets of the request. -/
  bytes : Bytes
  /-- Answer to the key. -/
  accept : String
  /-- Sub-protocols offered, if any were. -/
  offered : Option (List String)
deriving DecidableEq, Repr

/-- The headers of a handshake, those of the protocol first. -/
def handshakeHeaders (options : Options) (host key : String) : Except ClientError Headers := do
  let own : Headers := .ofList [
    ("host", Bytes.ofString host),
    ("connection", Bytes.ofString "Upgrade"),
    ("upgrade", Bytes.ofString "websocket"),
    ("sec-websocket-version", Bytes.ofString ProtocolVersion.v13.name),
    ("sec-websocket-key", Bytes.ofString key)]
  let headers := options.headers.entries.foldl (fun headers field => headers.append field.1 field.2)
    own
  let offered := Bytes.ofString (String.intercalate "," options.subProtocols)
  let headers ← if options.subProtocols.isEmpty then .ok headers
    else if Http.isHeaderText offered then .ok (headers.insert subProtocolHeader offered)
    else .error (.invalidArgument .badSubProtocols)
  return headers.insert "sec-websocket-version" (Bytes.ofString options.version.name)

def headerText (value : Bytes) : Except ClientError String :=
  match value.visible? with
  | some text => .ok text
  | none => .error (.webSocket .utf8)

/-- The sub-protocols that a header offers. -/
def offeredIn (headers : Headers) : Except ClientError (Option (List String)) :=
  match headers.get? subProtocolHeader with
  | none => .ok none
  | some value => do
    return some ((Http.elements (← headerText value)).map String.ofList)

/-- The lines of a handshake: each header of the protocol once, then all others. -/
def handshakeLines (headers : Headers) : Except ClientError (List String) := do
  let own ← protocolHeaders.mapM fun (name, written) =>
    match headers.get? name with
    | some value => do return written ++ ": " ++ (← headerText value)
    | none => .error (.webSocket (.protocol .invalidHeader))
  let others := headers.entries.filter fun field => !protocolHeaders.any (·.1 == field.1)
  let lines ← others.mapM fun (name, value) => do return name ++ ": " ++ (← headerText value)
  return own ++ lines

def Options.handshake (options : Options) (destination : Destination) (key : String) :
    Except ClientError Handshake := do
  let target ← (RequestTarget.parse (destination.url options.uri)).mapError fun _ =>
    .webSocket .httpFormat
  if target.authority.isEmpty then throw (.webSocket (.url .noHostName))
  let host := hostOfAuthority target.authority
  if host.isEmpty then throw (.webSocket (.url .emptyHostName))
  let headers ← handshakeHeaders options host key
  let offered ← offeredIn headers
  let lines ← handshakeLines headers
  let request := ("GET " ++ target.pathAndQuery ++ " HTTP/1.1") :: lines
  return {
    bytes := request.flatMap (fun line => Bytes.ofString line ++ Http.Outgoing.newline)
      ++ Http.Outgoing.newline
    accept := acceptOf key
    offered }

namespace Handshake

/-- Whether a header is there and headerEquals a word, in letters of either case. -/
def headerEquals (headers : Headers) (name word : String) : Bool :=
  match (headers.get? name).bind Bytes.visible? with
  | some text => Ascii.sameLetters text word
  | none => false

/-- What is wrong with the sub-protocol of an answer. -/
def subProtocolFault (handshake : Handshake) (headers : Headers) : Option WebSocketError :=
  match headers.get? subProtocolHeader, handshake.offered with
  | none, none => none
  | some value, some offered =>
    match value.visible? with
    | none => some .utf8
    | some picked => if picked ∈ offered then none else some (.protocol .badSubProtocol)
  | _, _ => some (.protocol .badSubProtocol)

/-- What is wrong with an answer. -/
def fault? (handshake : Handshake) (head : ResponseHead) : Option WebSocketError :=
  if head.version != .http11 then some (.protocol .wrongHttpVersion)
  else if head.status < 100 then some .httpFormat
  else if head.status != 101 then some (.http head.status)
  else if !headerEquals head.headers "upgrade" "websocket" then some (.protocol .missingUpgrade)
  else if !headerEquals head.headers "connection" "upgrade" then
    some (.protocol .missingConnectionUpgrade)
  else if head.headers.get? "sec-websocket-accept" != some (Bytes.ofString handshake.accept) then
    some (.protocol .acceptKeyMismatch)
  else handshake.subProtocolFault head.headers

/-- How far a handshake has come. -/
inductive Progress where
  /-- Octets of the request are left to write. -/
  | writing (left : Bytes)
  /-- Octets of the answer have arrived, in a number of parts. -/
  | reading (arrived : Bytes) (parts : Nat)
deriving DecidableEq, Repr

/-- What an attempt to go on came to. -/
inductive Attempt where
  /-- It waits for the connection. -/
  | pending (progress : Progress)
  /-- The handshake failed. -/
  | failed (error : WebSocketError)
  /-- The WebSocket is open; octets beyond the answer have arrived. -/
  | opened (beyond : Bytes)
deriving DecidableEq, Repr

/-- Most headers of an answer. -/
def headerLimit : Nat := 124

/-- Most octets of an answer. -/
def sizeLimit : Nat := 65536

/-- Most parts of an answer. -/
def partLimit : Nat := 512

/-- Largest number of octets read at once. -/
def partSize : Nat := 4096

/-- Whether an answer arrives in suspiciously many or small parts. -/
def isSuspicious (size parts : Nat) : Bool :=
  size > sizeLimit || parts > partLimit || (parts > 64 && parts * 128 > size)

/-- Judges what has arrived of an answer; nothing if more is needed. -/
def judge? (handshake : Handshake) (arrived : Bytes) : Option Attempt :=
  match ResponseHead.parse headerLimit arrived with
  | .more => none
  | .bad .tooManyHeaders => some (.failed (.capacity .tooManyHeaders))
  | .bad .malformed => some (.failed (.protocol .malformedHead))
  | .done head beyond =>
    match handshake.fault? head with
    | some error => some (.failed error)
    | none => some (.opened beyond)

/-- Reads the answer, in at most a number of parts. -/
def readAnswer (handshake : Handshake) : Nat → Bytes → Nat → Link → Link × Attempt
  | 0, arrived, parts, link => (link, .pending (.reading arrived parts))
  | fuel + 1, arrived, parts, link =>
    match link.receive partSize with
    | (link, .empty) => (link, .pending (.reading arrived parts))
    | (link, .ended) => (link, .failed (.protocol .handshakeIncomplete))
    | (link, .octets bytes) =>
      let arrived := arrived ++ bytes
      let parts := parts + 1
      if isSuspicious arrived.length parts then (link, .failed .attackAttempt)
      else
        match handshake.judge? arrived with
        | some attempt => (link, attempt)
        | none => readAnswer handshake fuel arrived parts link

/-- Goes on with a handshake as far as the connection allows. -/
def advance (handshake : Handshake) (progress : Progress) (link : Link) : Link × Attempt :=
  match progress with
  | .reading arrived parts => handshake.readAnswer (partLimit + 1) arrived parts link
  | .writing left =>
    match link.flush left with
    | (link, .broken) => (link, .failed (.io "BrokenPipe"))
    | (link, .blocked left) => (link, .pending (.writing left))
    | (link, .all) => handshake.readAnswer (partLimit + 1) [] 0 link

end Handshake

end Courier.WebSocket
