/-!
# Protocol versions

The versions of HTTP a client may ask for, with their names in ALPN, on the wire and in a
configuration.
-/

namespace Courier.Http

/-- A version of HTTP. -/
inductive Version where
  | http10
  | http11
  | http2
deriving DecidableEq, Repr

namespace Version

/-- Identifier in protocol negotiation. -/
def alpnId : Version → String
  | .http10 => "http/1.0"
  | .http11 => "http/1.1"
  | .http2 => "h2"

def wireName : Version → String
  | .http10 => "HTTP/1.0"
  | .http11 => "HTTP/1.1"
  | .http2 => "HTTP/2.0"

def configName : Version → String
  | .http10 => "http10"
  | .http11 => "http11"
  | .http2 => "http2"

/-- All versions, oldest first. -/
def all : List Version := [.http10, .http11, .http2]

end Version

end Courier.Http
