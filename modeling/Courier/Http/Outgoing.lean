import Courier.Error
import Courier.Http.Framing
import Courier.Request

/-!
# Requests on the wire

The octets of a request.  Its headers are those of the caller with the one `Host` header that
names the origin; a body is announced by its length unless the caller chose another framing.
-/

namespace Courier

open Http (Headers RequestTarget)

namespace Http

/-- An octet that may stand in a header value. -/
def isHeaderText (bytes : Bytes) : Bool := bytes.all Scan.isValueByte

/-- A request ready to be written. -/
structure Outgoing where
  method : String
  target : RequestTarget
  headers : Headers
  body : Bytes
deriving DecidableEq, Repr

namespace Outgoing

/-- The octets between two lines. -/
def newline : Bytes := [Scan.cr, Scan.lf]

/-- One header as written. -/
def fieldLine (field : String × Bytes) : Bytes :=
  Bytes.ofString field.1 ++ Bytes.ofString ": " ++ field.2 ++ newline

/-- A head as written. -/
def headBytes (first : String) (headers : Headers) : Bytes :=
  Bytes.ofString first ++ newline ++ headers.entries.flatMap fieldLine ++ newline

def line (request : Outgoing) : String :=
  request.method ++ " " ++ request.target.text ++ " HTTP/1.1"

/-- The digits of the size of a chunk. -/
def sizeDigits (size : Nat) : Bytes :=
  (Nat.toDigits 16 size).map fun digit => UInt8.ofNat digit.toUpper.toNat

def chunkBytes (body : Bytes) : Bytes :=
  sizeDigits body.length ++ newline ++ body ++ newline ++ Bytes.ofString "0" ++ newline ++ newline

/-- The headers with `chunked` as the last coding. -/
def withChunked (headers : Headers) : Headers :=
  if endsChunked headers then headers
  else
    let values := headers.values "transfer-encoding"
    let last := (values.getLast?.getD []) ++ Bytes.ofString ", chunked"
    (values.dropLast ++ [last]).foldl (fun headers value => headers.append "transfer-encoding" value)
      (headers.erase "transfer-encoding")

/-- The headers of a request whose body is chunked: a length that holds for the whole is left out. -/
def chunkedHeaders (headers : Headers) : Headers :=
  let chunked := withChunked headers
  if (contentLength? headers).isSome then chunked.erase "content-length" else chunked

/-- The octets of a request.  A body ends at the length that its headers state; one that is shorter
leaves the rest to come, and nothing makes up for it. -/
def bytes (request : Outgoing) : Bytes :=
  let headers := request.headers
  if request.body.isEmpty then
    headBytes request.line (headers.erase "transfer-encoding")
  else if headers.contains "transfer-encoding" then
    headBytes request.line (chunkedHeaders headers) ++ chunkBytes request.body
  else
    match contentLength? headers with
    | some length => headBytes request.line headers ++ request.body.take length
    | none =>
      let length := Bytes.ofString (toString request.body.length)
      headBytes request.line (headers.insert "content-length" length) ++ request.body

end Outgoing

end Http

namespace Request

/-- What is sent for a request: the caller's headers with the `Host` header of the target. -/
def outgoing (request : Request) : Except BadArgument Http.Outgoing :=
  match RequestTarget.parse request.target.uri with
  | .error cause => .error (.badTarget request.target.uri cause)
  | .ok target =>
    let host := Bytes.ofString request.target.hostHeader
    if Http.isHeaderText host then
      .ok {
        method := request.method
        target
        headers := (request.headers.getD .empty).insert "host" host
        body := request.body }
    else .error (.badHostHeader request.target.hostHeader)

end Request

end Courier
