import Courier.Rehearsal.Acquire

/-!
# Peers

The other ends of connections: they read requests, show them, and answer as scripted.
-/

namespace Courier.Rehearsal

open WebSocket (Message Session)

/-- Where in an answer the answer to the key of a handshake belongs. -/
def acceptMark : Bytes := Bytes.ofString "\x7baccept\x7d"

/-- Replaces each occurrence of a mark, scanning at most a number of octets.  The result so far
comes latest first. -/
def replaceMark (mark replacement : Bytes) : Nat → Bytes → Bytes → Bytes
  | 0, read, bytes => read.reverse ++ bytes
  | _, read, [] => read.reverse
  | fuel + 1, read, byte :: rest =>
    if mark.isPrefixOf (byte :: rest) then
      replaceMark mark replacement fuel (replacement.reverse ++ read)
        ((byte :: rest).drop mark.length)
    else replaceMark mark replacement fuel (byte :: read) rest

/-- A response without marks. -/
def withAccept (response : Bytes) (accept : String) : Bytes :=
  replaceMark acceptMark (Bytes.ofString accept) response.length [] response

/-- The answer of a server of WebSockets that says nothing of its own. -/
def standardUpgrade : Bytes :=
  Bytes.ofString ("HTTP/1.1 101 Switching Protocols\r\nConnection: Upgrade\r\nUpgrade: websocket"
    ++ "\r\nSec-WebSocket-Accept: \x7baccept\x7d\r\n\r\n")

/-- Splits octets after the first empty line.  What was read so far comes latest first. -/
def splitHead (read : Bytes) : Bytes → Option (Bytes × Bytes)
  | 13 :: 10 :: 13 :: 10 :: rest => some (read.reverse, rest)
  | byte :: rest => splitHead (byte :: read) rest
  | [] => none

/-- The lines of a head.  The line under way comes latest first. -/
def headLines (line : Bytes) : Bytes → List Bytes
  | 13 :: 10 :: rest => line.reverse :: headLines [] rest
  | byte :: rest => headLines (byte :: line) rest
  | [] => [line.reverse]

/-- A header line as name and value. -/
def headerField (line : Bytes) : Option (String × Bytes) :=
  match line.dropWhile (· != 58) with
  | _ :: value =>
    some (Ascii.lower (Bytes.latin1 (line.takeWhile (· != 58))), Http.Scan.trim value)
  | [] => none

/-- A request that a peer has read. -/
structure ReadRequest where
  /-- The request line. -/
  line : String
  headers : List (String × Bytes)
  body : Bytes
deriving DecidableEq, Repr

namespace ReadRequest

/-- The first value of a header. -/
def header? (headers : List (String × Bytes)) (name : String) : Option Bytes :=
  (headers.find? (·.1 == name)).map (·.2)

/-- The length of the body that headers announce. -/
def announcedLength (headers : List (String × Bytes)) : Nat :=
  match (header? headers "content-length").bind Bytes.visible? with
  | some text => (Http.length? text.toList).getD 0
  | none => 0

/-- The request in what has arrived, if it is complete. -/
def ofBytes? (arrived : Bytes) : Option ReadRequest :=
  match splitHead [] arrived with
  | none => none
  | some (head, rest) =>
    let lines := headLines [] head
    let headers := lines.tail.filterMap headerField
    let body := rest.take (announcedLength headers)
    if body.length < announcedLength headers then none
    else some ⟨Bytes.latin1 (lines.headD []), headers, body⟩

/-- A header value as it is shown: the key of a handshake is hidden. -/
def shownValue (name : String) (value : Bytes) : String :=
  let text := Bytes.latin1 value
  let isKey := name == "sec-websocket-key"
    && match Base64.decode text with
      | some key => key.length == 16
      | none => false
  if isKey then "<key>" else text

def shownHeaders (request : ReadRequest) : List (String × String) :=
  let shown := request.headers.map fun (name, value) => (name, shownValue name value)
  shown.mergeSort fun left right =>
    decide (left.1 < right.1) || (left.1 == right.1 && !decide (right.2 < left.2))

/-- The answer to the key of a handshake. -/
def accept (request : ReadRequest) : String :=
  match header? request.headers "sec-websocket-key" with
  | some key => WebSocket.acceptOf (Bytes.latin1 key)
  | none => ""

end ReadRequest

namespace Play

/-- Ends a peer that closes its connection. -/
def closePeer (peer : Peer) (link : Link) : Play Unit := do
  setLink peer.connection link.flip.close
  setPeerStage peer.id .done

/-- The session of a server of WebSockets. -/
def serverSession : Session := { role := .server, maxFrame := 16777216 }

/-- What a peer writes once it has read a request. -/
def responseBytes (script : PeerScript) (request : ReadRequest) : Bytes :=
  match script with
  | .http response _ | .webSocket response _ _ => withAccept response request.accept
  | _ => []

/-- What a peer does after it has written its response. -/
def afterResponse (peer : Peer) (link : Link) : Play PeerStage := do
  match peer.script with
  | .http _ true => return .done
  | .webSocket _ greetings _ => return .talking serverSession greetings false
  | _ =>
    setLink peer.connection link.flip.close
    return .done

/-- The echo of a message, if it is echoed. -/
def echoOf (script : PeerScript) (message : Message) : List Message :=
  match script, message with
  | .webSocket _ _ true, .text words => [.text words]
  | .webSocket _ _ true, .binary data => [.binary data]
  | _, _ => []

/-- One turn of a peer that speaks as the server of a WebSocket, for at most a number of messages.
The link is given as the peer sees it. -/
def talk (peer : Peer) : Nat → Session → List Message → Bool → Link → Play Unit
  | 0, session, left, stuck, link => do
    setLink peer.connection link.flip
    setPeerStage peer.id (.talking session left stuck)
  | fuel + 1, session, left, true, link =>
    match session.flush link with
    | (session, link, .ok) => talk peer fuel session left false link
    | (session, link, .pending) => do
      setLink peer.connection link.flip
      setPeerStage peer.id (.talking session left true)
    | (_, link, .failed _) => closePeer peer link
  | fuel + 1, session, message :: left, false, link =>
    match session.send link message with
    | (session, link, .ok) => talk peer fuel session left false link
    | (session, link, .pending) => talk peer fuel session left true link
    | (_, link, .failed _) => closePeer peer link
  | fuel + 1, session, [], false, link =>
    match session.read link with
    | (session, link, .message message) => do
      emit (.serverMessage message)
      talk peer fuel session (echoOf peer.script message) false link
    | (session, link, .pending) => do
      setLink peer.connection link.flip
      setPeerStage peer.id (.talking session [] false)
    | (_, link, _) => closePeer peer link

/-- Most turns within one turn of a peer. -/
def peerFuel : Nat := 100000

/-- One turn of a peer, in at most a number of parts.  The link is given as the peer sees it. -/
def advancePeer (peer : Peer) : Nat → PeerStage → Link → Play Unit
  | 0, stage, link => do
    setLink peer.connection link.flip
    setPeerStage peer.id stage
  | fuel + 1, .start, link =>
    match peer.script with
    | .silent => advancePeer peer fuel .draining link
    | .close => closePeer peer link
    | .echo => advancePeer peer fuel (.echoing []) link
    | _ => advancePeer peer fuel (.reading []) link
  | fuel + 1, .draining, link =>
    match link.receive 65536 with
    | (link, .octets _) => advancePeer peer fuel .draining link
    | (link, .empty) => advancePeer peer 0 .draining link
    | (link, .ended) => closePeer peer link
  | fuel + 1, .echoing left, link =>
    match link.flush left with
    | (link, .broken) => closePeer peer link
    | (link, .blocked left) => advancePeer peer 0 (.echoing left) link
    | (link, .all) =>
      match link.receive 4096 with
      | (link, .octets bytes) => advancePeer peer fuel (.echoing bytes) link
      | (link, .empty) => advancePeer peer 0 (.echoing []) link
      | (link, .ended) => closePeer peer link
  | fuel + 1, .reading arrived, link =>
    match ReadRequest.ofBytes? arrived with
    | some request => do
      emit (.server request.line request.shownHeaders request.body)
      advancePeer peer fuel (.writing (responseBytes peer.script request)) link
    | none =>
      match link.receive 65536 with
      | (link, .octets bytes) => advancePeer peer fuel (.reading (arrived ++ bytes)) link
      | (link, .empty) => advancePeer peer 0 (.reading arrived) link
      | (link, .ended) => closePeer peer link
  | fuel + 1, .writing left, link =>
    match link.flush left with
    | (link, .broken) => closePeer peer link
    | (link, .blocked left) => advancePeer peer 0 (.writing left) link
    | (link, .all) => do
      setLink peer.connection link.flip
      let stage ← afterResponse peer link
      match stage with
      | .talking session greetings stuck => talk peer fuel session greetings stuck link
      | stage => setPeerStage peer.id stage
  | fuel + 1, .talking session left stuck, link => talk peer fuel session left stuck link
  | _ + 1, .done, _ => pure ()

/-- One turn of a peer. -/
def pollPeer (id : Id) : Play Unit := do
  let world ← get
  match world.peer? id with
  | none => pure ()
  | some peer =>
    match world.link? peer.connection with
    | none => pure ()
    | some link => advancePeer peer peerFuel peer.stage link.flip

end Play

/-- Whether a peer can go on.  The link is given as the peer sees it. -/
def Peer.isReady (peer : Peer) (link : Link) : Bool :=
  match peer.stage with
  | .start => true
  | .draining | .reading _ => link.incoming.isReadable
  | .echoing left => if left.isEmpty then link.incoming.isReadable else link.outgoing.isWritable
  | .writing _ => link.outgoing.isWritable
  | .talking _ _ stuck => if stuck then link.outgoing.isWritable else link.incoming.isReadable
  | .done => false

end Courier.Rehearsal
