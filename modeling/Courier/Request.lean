import Courier.Endpoint
import Courier.Http.Headers

/-!
# Requests

A request names an origin, the place its connection leads to and what is sent there.  Nothing is
sent while a request is built.
-/

namespace Courier

open Http (Headers)

/-- Where a request goes and how it names its origin. -/
structure Target where
  /-- Origin host. -/
  host : String
  /-- Origin port. -/
  port : UInt16
  secure : Bool
  /-- Request target as written on the wire. -/
  uri : String
  /-- Host the connection is opened to. -/
  connectHost : String
  /-- Port the connection is opened to. -/
  connectPort : UInt16
  /-- Value of the `Host` header. -/
  hostHeader : String
deriving DecidableEq, Repr

/-- The endpoint that the connection of a request leads to. -/
def Target.endpoint (target : Target) : Endpoint :=
  ⟨target.connectHost, target.connectPort, target.secure⟩

/-- A request ready to be sent. -/
structure Request where
  method : String
  /-- Origin, connection and request target. -/
  target : Target
  /-- Headers; nothing when none were ever set. -/
  headers : Option Headers := none
  body : Bytes := []
  followRedirects : Bool := false
deriving DecidableEq, Repr

namespace Request

/-- The full URI of a request.  A target that is absolute already stands for itself. -/
def absoluteUri (request : Request) : String :=
  let uri := request.target.uri
  if "http://".toList.isPrefixOf uri.toList || "https://".toList.isPrefixOf uri.toList then uri
  else
    (if request.target.secure then "https" else "http") ++ "://" ++ request.target.hostHeader ++ uri

/-- The headers of a request, created if there are none. -/
def touchHeaders (request : Request) : Request :=
  { request with headers := some (request.headers.getD .empty) }

/-- Adds a header. -/
def appendHeader (request : Request) (name : String) (value : Bytes) : Request :=
  { request with headers := some ((request.headers.getD .empty).append name value) }

/-- Makes a header value the only one of its name. -/
def insertHeader (request : Request) (name : String) (value : Bytes) : Request :=
  { request with headers := some ((request.headers.getD .empty).insert name value) }

end Request

end Courier
