import Courier.Error
import Courier.Http.Chunks

/-!
# Reading responses

A reading takes the octets of a connection in whatever parts they arrive and ends with a response
or an error.  Interim responses are passed over.  A body longer than the limit is an error as soon
as it is too long, whatever would have followed.
-/

namespace Courier.Http

/-- A body under way. -/
structure BodyReading where
  head : ResponseHead
  /-- What is left of the body. -/
  decoder : BodyDecoder
  /-- Octets of the body so far. -/
  size : Nat := 0
  /-- Parts of the body so far, latest first. -/
  parts : List Bytes := []
deriving DecidableEq, Repr

/-- A response whose body is complete. -/
structure Reply where
  head : ResponseHead
  body : Bytes
deriving DecidableEq, Repr

/-- How far a reading has come. -/
inductive ResponseReading where
  /-- The head is not complete. -/
  | head (arrived : Bytes)
  /-- The body is not complete. -/
  | body (reading : BodyReading)
  /-- The reading has ended. -/
  | done (result : Except ClientError Reply)

/-- What a reading has to know of its request and its client. -/
structure ReadingTerms where
  method : String
  /-- Longest body accepted. -/
  bodyLimit : Nat
deriving DecidableEq, Repr

namespace ResponseReading

/-- Most headers of a response. -/
def headerLimit : Nat := 100

/-- Most octets of a head. -/
def headLimit : Nat := 417792

def failed (error : ClientError) : ResponseReading := .done (.error error)

/-- Goes on with a body after some of it was decoded. -/
def afterBody (terms : ReadingTerms) (reading : BodyReading) (state : BodyState) :
    ResponseReading :=
  if reading.size > terms.bodyLimit then failed (.body .tooLong)
  else
    match state with
    | .open decoder => .body { reading with decoder }
    | .complete => .done (.ok ⟨reading.head, reading.parts.reverse.flatten⟩)
    | .broken => failed (.body .unreadable)

/-- Reads octets of a body. -/
def feedBody (terms : ReadingTerms) (reading : BodyReading) (bytes : Bytes) : ResponseReading :=
  let (state, data) := reading.decoder.feed bytes
  afterBody terms
    { reading with
      size := reading.size + data.length
      parts := if data.isEmpty then reading.parts else data :: reading.parts }
    state

def startBody (terms : ReadingTerms) (head : ResponseHead) (rest : Bytes) : ResponseReading :=
  match head.framing? terms.method with
  | none => failed (.exchange .malformedHead)
  | some framing =>
    match BodyDecoder.start framing with
    | .open decoder => feedBody terms { head, decoder } rest
    | _ => .done (.ok ⟨head, []⟩)

/-- Reads a head from all that has arrived, passing over a number of interim responses. -/
def readHead (terms : ReadingTerms) : Nat → Bytes → ResponseReading
  | 0, arrived => .head arrived
  | fuel + 1, arrived =>
    match ResponseHead.parse headerLimit arrived with
    | .bad _ => failed (.exchange .malformedHead)
    | .more =>
      if arrived.length ≥ headLimit then failed (.exchange .malformedHead) else .head arrived
    | .done found rest =>
      if found.status < 100 then failed (.exchange .malformedHead)
      else if found.isInterim then readHead terms fuel rest
      else startBody terms found rest

/-- Reads octets. -/
def feed (terms : ReadingTerms) (reading : ResponseReading) (bytes : Bytes) : ResponseReading :=
  match reading with
  | .head arrived =>
    let arrived := arrived ++ bytes
    readHead terms (arrived.length + 1) arrived
  | .body reading => feedBody terms reading bytes
  | .done result => .done result

/-- Reads the close of the connection. -/
def close (terms : ReadingTerms) : ResponseReading → ResponseReading
  | .head _ => failed (.exchange .incompleteHead)
  | .body reading => afterBody terms reading reading.decoder.close
  | .done result => .done result

end ResponseReading

end Courier.Http
