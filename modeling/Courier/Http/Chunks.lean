import Courier.Http.Framing

/-!
# Decoding bodies

A decoding reads the body of a message one octet at a time, so that it does not matter in which
parts the octets arrive.
-/

namespace Courier.Http

/-- Where in a chunked body a decoding stands. -/
inductive ChunkPlace where
  /-- Before the first digit of a size. -/
  | sizeStart
  /-- Inside a size. -/
  | size (value : Nat)
  /-- In the blanks after a size. -/
  | sizeBlank (value : Nat)
  /-- In an extension of a size. -/
  | extension (value : Nat)
  /-- Before the line feed that ends a size. -/
  | sizeEnd (value : Nat)
  /-- In the data of a chunk. -/
  | data (left : Nat)
  /-- Before the carriage return after the data. -/
  | dataReturn
  /-- Before the line feed after the data. -/
  | dataEnd
  /-- At the start of a line after the last chunk. -/
  | lineStart
  | trailer
  /-- Before the line feed that ends a trailer. -/
  | trailerEnd
  /-- Before the line feed that ends the body. -/
  | finalEnd
deriving DecidableEq, Repr

/-- A chunked body under way. -/
structure Chunks where
  /-- Where it stands. -/
  place : ChunkPlace := .sizeStart
  /-- Octets of extensions read so far. -/
  extensionOctets : Nat := 0
  /-- Octets of trailers read so far, latest first. -/
  trailerOctets : Bytes := []
  /-- Trailers read so far. -/
  trailers : Nat := 0
deriving DecidableEq, Repr

/-- What one octet of a body means. -/
inductive ChunkStep where
  /-- It frames the data. -/
  | framing (chunks : Chunks)
  | data (chunks : Chunks)
  | last
  /-- It cannot stand there. -/
  | bad
deriving DecidableEq, Repr

namespace Chunks

/-- Most octets of extensions in one body. -/
def extensionLimit : Nat := 16384

/-- Most octets of trailers in one body. -/
def trailerLimit : Nat := 16384

/-- Most trailers in one body. -/
def trailerCountLimit : Nat := 100

/-- Goes on at a place. -/
def moveTo (chunks : Chunks) (place : ChunkPlace) : ChunkStep := .framing { chunks with place }

/-- Goes on after a size without further digits. -/
def afterSize (chunks : Chunks) (value : Nat) (byte : UInt8) : ChunkStep :=
  if Scan.isBlank byte then chunks.moveTo (.sizeBlank value)
  else if byte == 59 then chunks.moveTo (.extension value)
  else if byte == Scan.cr then chunks.moveTo (.sizeEnd value)
  else .bad

/-- Reads a digit of a size. -/
def digit (chunks : Chunks) (value : Nat) (byte : UInt8) : ChunkStep :=
  let next := value * 16 + Ascii.digitValue (Char.ofNat byte.toNat)
  if next < lengthBound then chunks.moveTo (.size next) else .bad

/-- Whether an octet is a digit of a size. -/
def isSizeDigit (byte : UInt8) : Bool := byte < 128 && Ascii.isHexDigit (Char.ofNat byte.toNat)

/-- Keeps an octet of a trailer and goes on at a place. -/
def keep (chunks : Chunks) (byte : UInt8) (place : ChunkPlace) : ChunkStep :=
  let kept := byte :: chunks.trailerOctets
  if kept.length ≥ trailerLimit then .bad
  else .framing { chunks with place, trailerOctets := kept }

/-- Whether the trailers read so far are headers. -/
def trailersValid (chunks : Chunks) : Bool :=
  chunks.trailerOctets.isEmpty
    || match Scan.headers trailerCountLimit
        (chunks.trailerOctets.reverse ++ [Scan.cr, Scan.lf]) with
      | .done _ _ => true
      | _ => false

/-- Reads one octet. -/
def feed (chunks : Chunks) (byte : UInt8) : ChunkStep :=
  match chunks.place with
  | .sizeStart => if isSizeDigit byte then chunks.digit 0 byte else .bad
  | .size value =>
    if isSizeDigit byte then chunks.digit value byte else chunks.afterSize value byte
  | .sizeBlank value => chunks.afterSize value byte
  | .extension value =>
    if byte == Scan.cr then chunks.moveTo (.sizeEnd value)
    else if byte == Scan.lf then .bad
    else
      let count := chunks.extensionOctets + 1
      if count ≥ extensionLimit then .bad else .framing { chunks with extensionOctets := count }
  | .sizeEnd value =>
    if byte != Scan.lf then .bad
    else if value == 0 then chunks.moveTo .lineStart
    else chunks.moveTo (.data value)
  | .data left =>
    .data { chunks with place := if left ≤ 1 then .dataReturn else .data (left - 1) }
  | .dataReturn => if byte == Scan.cr then chunks.moveTo .dataEnd else .bad
  | .dataEnd => if byte == Scan.lf then chunks.moveTo .sizeStart else .bad
  | .lineStart =>
    if byte == Scan.cr then chunks.moveTo .finalEnd else chunks.keep byte .trailer
  | .trailer => chunks.keep byte (if byte == Scan.cr then .trailerEnd else .trailer)
  | .trailerEnd =>
    if byte != Scan.lf || chunks.trailers ≥ trailerCountLimit then .bad
    else { chunks with trailers := chunks.trailers + 1 }.keep byte .lineStart
  | .finalEnd => if byte == Scan.lf && chunks.trailersValid then .last else .bad

end Chunks

/-- A body under way. -/
inductive BodyDecoder where
  /-- A number of octets is left. -/
  | sized (left : Nat)
  /-- Chunks are left. -/
  | chunked (chunks : Chunks)
  /-- Everything up to the close is left. -/
  | untilClose
deriving DecidableEq, Repr

/-- Where a decoding stands after some octets. -/
inductive BodyState where
  /-- More is to come. -/
  | open (decoder : BodyDecoder)
  /-- The body is complete. -/
  | complete
  /-- The body is malformed or cut short. -/
  | broken
deriving DecidableEq, Repr

namespace BodyDecoder

/-- The decoder of a framing. -/
def start : Framing → BodyState
  | .sized 0 => .complete
  | .sized length => .open (.sized length)
  | .chunked => .open (.chunked {})
  | .untilClose => .open .untilClose

/-- Reads chunks.  The data read so far comes latest first. -/
def feedChunks : Chunks → Bytes → Bytes → BodyState × Bytes
  | chunks, read, [] => (.open (.chunked chunks), read)
  | chunks, read, byte :: rest =>
    match chunks.feed byte with
    | .framing chunks => feedChunks chunks read rest
    | .data chunks => feedChunks chunks (byte :: read) rest
    | .last => (.complete, read)
    | .bad => (.broken, read)

/-- Reads octets; gives the data among them. -/
def feed (decoder : BodyDecoder) (bytes : Bytes) : BodyState × Bytes :=
  match decoder with
  | .sized left =>
    let data := bytes.take left
    (if data.length == left then .complete else .open (.sized (left - data.length)), data)
  | .chunked chunks =>
    let (state, read) := feedChunks chunks [] bytes
    (state, read.reverse)
  | .untilClose => (.open .untilClose, bytes)

/-- Reads the close of the connection. -/
def close : BodyDecoder → BodyState
  | .untilClose => .complete
  | _ => .broken

end BodyDecoder

end Courier.Http
