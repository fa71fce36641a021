import Courier.Bytes

/-!
# Frames

The units in which a WebSocket carries messages.  A client masks what it sends, a server does
not.
-/

namespace Courier.WebSocket

/-- What a frame carries. -/
inductive Opcode where
  /-- More of a message begun earlier. -/
  | continuation
  | text
  | binary
  /-- The end of the conversation. -/
  | close
  /-- A question whether the other side is there. -/
  | ping
  /-- The answer to a ping. -/
  | pong
deriving DecidableEq, Repr

namespace Opcode

/-- The number of a kind. -/
def code : Opcode → UInt8
  | continuation => 0
  | text => 1
  | binary => 2
  | close => 8
  | ping => 9
  | pong => 10

/-- The kind of a number. -/
def ofCode? (code : UInt8) : Option Opcode :=
  [continuation, text, binary, close, ping, pong].find? (·.code == code)

/-- Whether a kind controls the connection and carries no message. -/
def isControl : Opcode → Bool
  | close | ping | pong => true
  | _ => false

end Opcode

structure Frame where
  /-- Whether it ends its message. -/
  final : Bool := true
  /-- Whether a bit reserved for extensions is set. -/
  reserved : Bool := false
  /-- What it carries. -/
  opcode : Opcode
  /-- Whether it arrived masked. -/
  masked : Bool := false
  /-- What it carries, unmasked. -/
  payload : Bytes
deriving DecidableEq, Repr

/-- What is combined with the octets of a masked payload, over and over. -/
structure Mask where
  /-- First octet. -/
  a : UInt8
  /-- Second octet. -/
  b : UInt8
  /-- Third octet. -/
  c : UInt8
  /-- Fourth octet. -/
  d : UInt8
deriving DecidableEq, Repr

namespace Mask

/-- The octets of a mask. -/
def bytes (mask : Mask) : Bytes := [mask.a, mask.b, mask.c, mask.d]

/-- A mask turned by one octet. -/
def turn (mask : Mask) : Mask := ⟨mask.b, mask.c, mask.d, mask.a⟩

/-- Masks octets, or unmasks them.  The result so far comes latest first. -/
def applyOnto (mask : Mask) (read : Bytes) : Bytes → Bytes
  | [] => read
  | byte :: rest => mask.turn.applyOnto ((byte ^^^ mask.a) :: read) rest

/-- Masks octets, or unmasks them. -/
def apply (mask : Mask) (bytes : Bytes) : Bytes := (mask.applyOnto [] bytes).reverse

end Mask

namespace Frame

/-- The octets that state the length of a payload. -/
def lengthBytes (masked : Bool) (length : Nat) : Bytes :=
  let flag : UInt8 := if masked then 128 else 0
  if length < 126 then [flag ||| UInt8.ofNat length]
  else if length < 65536 then (flag ||| 126) :: Bytes.bigEndian 2 length
  else (flag ||| 127) :: Bytes.bigEndian 8 length

/-- A frame as written, under a mask if there is one. -/
def encode (frame : Frame) (mask : Option Mask) : Bytes :=
  let first := (if frame.final then 128 else 0) ||| frame.opcode.code
  let payload := match mask with
    | some mask => mask.bytes ++ mask.apply frame.payload
    | none => frame.payload
  first :: lengthBytes mask.isSome frame.payload.length ++ payload

/-- The head of a frame. -/
structure Head where
  /-- The frame without its payload. -/
  frame : Frame
  /-- The mask of the payload. -/
  mask : Option Mask
  /-- Length of the payload. -/
  length : Nat
deriving DecidableEq, Repr

/-- What reading a head came to. -/
inductive HeadScan where
  /-- More octets are needed. -/
  | more
  | unknown
  /-- A head was read; the rest follows it. -/
  | done (head : Head) (rest : Bytes)
deriving DecidableEq, Repr

/-- Reads an extended length of a width. -/
def extendedLength (width : Nat) (rest : Bytes) : Option (Nat × Bytes) :=
  let digits := rest.take width
  if digits.length < width then none else some (Bytes.ofBigEndian digits, rest.drop width)

/-- Reads the length of a payload, begun with a number below 128. -/
def scanLength (begun : Nat) (rest : Bytes) : Option (Nat × Bytes) :=
  if begun == 126 then extendedLength 2 rest
  else if begun == 127 then extendedLength 8 rest
  else some (begun, rest)

/-- Reads a mask. -/
def scanMask (masked : Bool) (rest : Bytes) : Option (Option Mask × Bytes) :=
  if masked then
    match rest with
    | a :: b :: c :: d :: rest => some (some ⟨a, b, c, d⟩, rest)
    | _ => none
  else some (none, rest)

/-- Reads the head of a frame. -/
def scanHead (bytes : Bytes) : HeadScan :=
  match bytes with
  | first :: second :: rest =>
    let masked := second &&& 128 != 0
    match scanLength (second &&& 127).toNat rest with
    | none => .more
    | some (length, rest) =>
      match scanMask masked rest with
      | none => .more
      | some (mask, rest) =>
        match Opcode.ofCode? (first &&& 15) with
        | none => .unknown
        | some opcode =>
          let frame : Frame := {
            final := first &&& 128 != 0
            reserved := first &&& 112 != 0
            opcode
            masked
            payload := [] }
          .done ⟨frame, mask, length⟩ rest
  | _ => .more

/-- A frame whose payload has arrived. -/
def Head.withPayload (head : Head) (payload : Bytes) : Frame :=
  { head.frame with
    payload := match head.mask with
      | some mask => mask.apply payload
      | none => payload }

end Frame

end Courier.WebSocket
