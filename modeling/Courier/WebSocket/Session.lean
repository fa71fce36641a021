import Courier.Link.Pipe
import Courier.WebSocket.Message

/-!
# Sessions

One side of an open WebSocket.  Pings are answered and a close is confirmed without being asked;
the answer goes out with whatever is sent next, or before the next message is read.
-/

namespace Courier.WebSocket

/-- The two sides of a WebSocket. -/
inductive Role where
  /-- The side that opened it. -/
  | client
  /-- The side that accepted it. -/
  | server
deriving DecidableEq, Repr

/-- How far a conversation has come. -/
inductive Phase where
  /-- Both sides talk. -/
  | active
  /-- This side has said that it ends. -/
  | closedHere
  /-- The other side has said that it ends. -/
  | closedThere
  /-- Both sides have said that it ends. -/
  | confirmed
  /-- The connection is gone. -/
  | over
deriving DecidableEq, Repr

/-- Whether the other side may still be heard. -/
def Phase.hears : Phase → Bool
  | .active | .closedHere => true
  | _ => false

/-- A message of several frames, under way. -/
structure Fragments where
  isText : Bool
  /-- What has arrived of it. -/
  data : Bytes
deriving DecidableEq, Repr

/-- One side of an open WebSocket. -/
structure Session where
  /-- Which side it is. -/
  role : Role
  /-- Longest frame accepted. -/
  maxFrame : Nat
  /-- Longest message accepted. -/
  maxMessage : Nat := 67108864
  /-- Mask of the frames that a client sends. -/
  mask : Mask := ⟨0x37, 0xFA, 0x21, 0x3D⟩
  /-- How far the conversation has come. -/
  phase : Phase := .active
  /-- Octets that arrived and were not read. -/
  inbox : Bytes := []
  /-- Octets to be sent. -/
  outbox : Bytes := []
  /-- Answer that waits to be sent. -/
  reply : Option Frame := none
  /-- Whether an answer may be stuck on its way. -/
  replyStuck : Bool := false
  /-- Message of several frames, under way. -/
  fragments : Option Fragments := none
  /-- Whether reading has come to its end. -/
  ended : Bool := false
deriving DecidableEq, Repr

namespace Session

/-- What a call came to. -/
inductive Outcome where
  | ok
  /-- It waits for the connection. -/
  | pending
  | failed (error : WebSocketError)
deriving DecidableEq, Repr

/-- What reading came to. -/
inductive ReadOutcome where
  /-- A message arrived. -/
  | message (message : Message)
  /-- Nothing has arrived. -/
  | pending
  /-- The conversation has ended. -/
  | ended
  /-- The conversation broke. -/
  | failed (error : WebSocketError)
deriving DecidableEq, Repr

/-- Puts a frame into the outbox. -/
def queue (session : Session) (frame : Frame) : Session :=
  let mask := match session.role with
    | .client => some session.mask
    | .server => none
  { session with outbox := session.outbox ++ frame.encode mask }

/-- Puts the waiting answer into the outbox. -/
def queueReply (session : Session) : Session :=
  match session.reply with
  | some frame => { session.queue frame with reply := none }
  | none => session

/-- Whether a server has nothing left to say on this connection. -/
def isServerDone (session : Session) : Bool := session.role == .server && !session.phase.hears

/-- Sends the outbox. -/
def drain (session : Session) (link : Link) : Session × Link × Outcome :=
  match link.flush session.outbox with
  | (link, .all) => ({ session with outbox := [] }, link, .ok)
  | (link, .blocked left) => ({ session with outbox := left }, link, .pending)
  | (link, .broken) => (session, link, .failed (.io "BrokenPipe"))

/-- Sends everything that waits.  A server that has confirmed the close is done with the
connection after that. -/
def flush (session : Session) (link : Link) : Session × Link × Outcome :=
  match session.queueReply.drain link with
  | (session, link, .ok) =>
    if session.isServerDone then ({ session with phase := .over }, link, .failed .connectionClosed)
    else ({ session with replyStuck := false }, link, .ok)
  | other => other

/-- Starts to send a message: it is put into the outbox. -/
def startSend (session : Session) (message : Message) : Except WebSocketError Session :=
  match session.phase with
  | .over => .error .alreadyClosed
  | .active =>
    match message with
    | .pong _ => .ok { session with reply := some message.frame }
    | .close _ => .ok (({ session with phase := .closedHere }).queue message.frame).queueReply
    | _ => .ok (session.queue message.frame).queueReply
  | _ => .error (.protocol .sendAfterClosing)

/-- Sends a message, as far as the connection takes it. -/
def send (session : Session) (link : Link) (message : Message) : Session × Link × Outcome :=
  match session.startSend message with
  | .error error => (session, link, .failed error)
  | .ok session =>
    match session.flush link with
    | (session, link, .failed .connectionClosed) => (session, link, .ok)
    | other => other

/-- What a frame from the other side comes to. -/
inductive Arrival where
  /-- A whole message. -/
  | message (session : Session) (message : Message)
  | nothing (session : Session)
  /-- The end of the conversation. -/
  | failed (error : WebSocketError)
deriving Repr

/-- A close frame arrives. -/
def receiveClose (session : Session) (reason : Option CloseReason) : Arrival :=
  match session.phase with
  | .active =>
    let reason := reason.map fun reason => if reason.isAllowed then reason else .violation
    .message { session with phase := .closedThere, reply := some (Message.close reason).frame }
      (.close reason)
  | .closedHere => .message { session with phase := .confirmed } (.close reason)
  | _ => .nothing session

def receiveControl (session : Session) (frame : Frame) : Arrival :=
  if !frame.final then .failed (.protocol .fragmentedControl)
  else if frame.payload.length > 125 then .failed (.protocol .longControl)
  else
    match frame.opcode with
    | .close =>
      match CloseReason.ofPayload frame.payload with
      | .ok reason => session.receiveClose reason
      | .error error => .failed error
    | .ping =>
      let answered := if session.phase == .active then
          { session with reply := some (Message.pong frame.payload).frame }
        else session
      .message answered (.ping frame.payload)
    | _ => .message session (.pong frame.payload)

/-- A message is complete. -/
def complete (session : Session) (fragments : Fragments) : Arrival :=
  if fragments.isText then
    match fragments.data.toString? with
    | some text => .message session (.text text)
    | none => .failed .utf8
  else .message session (.binary fragments.data)

/-- A part of a message arrives. -/
def receivePart (session : Session) (fragments : Fragments) (final : Bool) : Arrival :=
  if fragments.data.length > session.maxMessage then .failed (.capacity .messageTooLong)
  else if fragments.isText && !fragments.data.beginsText then .failed .utf8
  else if final then { session with fragments := none }.complete fragments
  else .nothing { session with fragments := some fragments }

def receiveData (session : Session) (frame : Frame) : Arrival :=
  match frame.opcode, session.fragments with
  | .continuation, none => .failed (.protocol .unexpectedContinue)
  | .continuation, some begun =>
    session.receivePart { begun with data := begun.data ++ frame.payload } frame.final
  | _, some _ => .failed (.protocol .expectedFragment)
  | opcode, none => session.receivePart ⟨opcode == .text, frame.payload⟩ frame.final

def receiveFrame (session : Session) (frame : Frame) : Arrival :=
  if !session.phase.hears then .failed (.protocol .receivedAfterClosing)
  else if frame.reserved then .failed (.protocol .reservedBits)
  else if session.role == .client && frame.masked then .failed (.protocol .maskedFrame)
  else if session.role == .server && !frame.masked then .failed (.protocol .unmaskedFrame)
  else if frame.opcode.isControl then session.receiveControl frame
  else session.receiveData frame

/-- What taking a frame from the inbox came to. -/
inductive Taken where
  /-- More octets are needed. -/
  | more
  /-- The frame cannot be accepted. -/
  | failed (error : WebSocketError)
  /-- A frame was taken. -/
  | frame (session : Session) (frame : Frame)
deriving Repr

/-- Takes a frame from the inbox.  Its length is judged before the payload has arrived. -/
def takeFrame (session : Session) : Taken :=
  match Frame.scanHead session.inbox with
  | .more => .more
  | .unknown => .failed (.protocol .unknownOpcode)
  | .done head rest =>
    if head.length > session.maxFrame then .failed (.capacity .messageTooLong)
    else
      let payload := rest.take head.length
      if payload.length < head.length then .more
      else .frame { session with inbox := rest.drop head.length } (head.withPayload payload)

/-- What the close of the connection means. -/
def connectionGone (session : Session) : Session × WebSocketError :=
  ({ session with phase := .over },
    match session.phase with
    | .closedThere | .confirmed => .connectionClosed
    | _ => .protocol .resetWithoutClosing)

/-- Largest number of octets read at once. -/
def readSize : Nat := 131072

/-- Ends reading. -/
def finish (session : Session) (link : Link) (error : WebSocketError) :
    Session × Link × ReadOutcome :=
  ({ session with ended := true }, link,
    match error with
    | .connectionClosed | .alreadyClosed => .ended
    | _ => .failed error)

/-- Sends a waiting answer before reading; tells why reading must end, if it must. -/
def beforeRead (session : Session) (link : Link) : Session × Link × Option WebSocketError :=
  if session.reply.isSome || session.replyStuck then
    match session.flush link with
    | (session, link, .ok) => (session, link, none)
    | (session, link, .pending) => ({ session with replyStuck := true }, link, none)
    | (session, link, .failed error) => (session, link, some error)
  else if session.isServerDone then
    ({ session with phase := .over }, link, some .connectionClosed)
  else (session, link, none)

/-- Reads until a message is complete, at most a number of frames and parts. -/
def readLoop : Nat → Session → Link → Session × Link × ReadOutcome
  | 0, session, link => (session, link, .pending)
  | fuel + 1, session, link =>
    match session.takeFrame with
    | .failed error => session.finish link error
    | .frame session frame =>
      match session.receiveFrame frame with
      | .failed error => session.finish link error
      | .message session message => (session, link, .message message)
      | .nothing session =>
        match session.beforeRead link with
        | (session, link, some error) => session.finish link error
        | (session, link, none) => readLoop fuel session link
    | .more =>
      match link.receive readSize with
      | (link, .empty) => (session, link, .pending)
      | (link, .ended) =>
        let (session, error) := session.connectionGone
        session.finish link error
      | (link, .octets bytes) =>
        readLoop fuel { session with inbox := session.inbox ++ bytes } link

/-- Reads a message, if one has arrived. -/
def read (session : Session) (link : Link) : Session × Link × ReadOutcome :=
  if session.ended then (session, link, .ended)
  else if session.phase == .over then session.finish link .alreadyClosed
  else
    match session.beforeRead link with
    | (session, link, some error) => session.finish link error
    | (session, link, none) =>
      readLoop (2 * (session.inbox.length + link.incoming.held.length) + 4) session link

end Session

end Courier.WebSocket
