import Courier.Error
import Courier.WebSocket.Frame

/-!
# Messages

What the two sides of a WebSocket tell one another, and the frames that say it.
-/

namespace Courier.WebSocket

/-- Why a conversation ends. -/
structure CloseReason where
  /-- Code of the reason. -/
  code : UInt16
  /-- The reason in words. -/
  text : String
deriving DecidableEq, Repr

namespace CloseReason

/-- Whether a code may be sent. -/
def isAllowed (reason : CloseReason) : Bool :=
  reason.code ∈ [1000, 1001, 1002, 1003, 1007, 1008, 1009, 1010, 1011, 1012, 1013]
    || (3000 ≤ reason.code && reason.code < 5000)

/-- The reason given to a side that sent a code it must not send. -/
def violation : CloseReason := ⟨1002, "Protocol violation"⟩

/-- The payload of a close frame. -/
def payload : Option CloseReason → Bytes
  | none => []
  | some reason => Bytes.bigEndian 2 reason.code.toNat ++ Bytes.ofString reason.text

/-- The reason in the payload of a close frame. -/
def ofPayload : Bytes → Except WebSocketError (Option CloseReason)
  | [] => .ok none
  | [_] => .error (.protocol .badCloseSequence)
  | high :: low :: rest =>
    match Bytes.toString? rest with
    | some words => .ok (some ⟨UInt16.ofNat (Bytes.ofBigEndian [high, low]), words⟩)
    | none => .error .utf8

end CloseReason

inductive Message where
  | text (words : String)
  | binary (data : Bytes)
  /-- A question whether the other side is there. -/
  | ping (data : Bytes)
  /-- The answer to a ping. -/
  | pong (data : Bytes)
  /-- The end of the conversation. -/
  | close (reason : Option CloseReason)
deriving DecidableEq, Repr

/-- A message as text: the reason, if it ends the conversation. -/
def Message.toText? : Message → Option String
  | .text words => some words
  | .binary data | .ping data | .pong data => data.toString?
  | .close reason => some ((reason.map (·.text)).getD "")

def Message.frame : Message → Frame
  | .text words => { opcode := .text, payload := Bytes.ofString words }
  | .binary data => { opcode := .binary, payload := data }
  | .ping data => { opcode := .ping, payload := data }
  | .pong data => { opcode := .pong, payload := data }
  | .close reason => { opcode := .close, payload := CloseReason.payload reason }

end Courier.WebSocket
