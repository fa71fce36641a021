import Courier.Http.Version

/-!
# Client configuration

What a client is built from.  A configuration is fixed once a client holds it; every field has a
default, so the empty configuration is usable.
-/

namespace Courier

open Http (Version)

/-- Protocol spoken to a forward proxy. -/
inductive ProxyKind where
  /-- Plain requests in absolute form. -/
  | http
  /-- SOCKS version 4. -/
  | socks4
  /-- SOCKS version 5. -/
  | socks5
deriving DecidableEq, Repr

/-- Name of a proxy protocol in a configuration. -/
def ProxyKind.configName : ProxyKind → String
  | http => "http"
  | socks4 => "socks4"
  | socks5 => "socks5"

/-- All proxy protocols. -/
def ProxyKind.all : List ProxyKind := [http, socks4, socks5]

/-- A forward proxy. -/
structure Proxy where
  /-- Host of the proxy. -/
  host : String
  /-- Port of the proxy. -/
  port : UInt16 := 3128
  /-- Protocol of the proxy. -/
  kind : ProxyKind := .http
  /-- User of the basic credentials. -/
  username : Option String := none
  /-- Password of the basic credentials. -/
  password : Option String := none
deriving DecidableEq, Repr

/-- Limits of the connection pool. -/
structure PoolLimits where
  /-- Connections open at once to one endpoint. -/
  maxPoolSize : UInt64 := 5
  /-- Acquisitions that may wait for one endpoint. -/
  maxWaitQueueSize : UInt64 := 64
  /-- Milliseconds within which a connection must be established. -/
  connectTimeoutMs : UInt64 := 60000
deriving DecidableEq, Repr

/-- Everything a client can be told. -/
structure Config where
  /-- Host of a request that names none. -/
  defaultHost : String := "localhost"
  /-- Port of a request that names none. -/
  defaultPort : UInt16 := 80
  /-- Whether requests are secured unless they say otherwise. -/
  secure : Bool := false
  /-- Whether the protocol is negotiated during the TLS handshake. -/
  useAlpn : Bool := false
  /-- Protocols offered in that negotiation; when empty they follow from `protocolVersion`. -/
  alpnVersions : List Version := []
  /-- Protocol asked of the pool. -/
  protocolVersion : Version := .http11
  /-- Forward proxy, if any. -/
  proxy : Option Proxy := none
  /-- Largest WebSocket frame accepted, in octets. -/
  maxWebSocketFrameSize : UInt64 := 65536
  /-- Whether requests follow redirects unless told otherwise. -/
  followRedirects : Bool := false
  /-- Most redirects followed by one send. -/
  maxRedirects : UInt32 := 16
  /-- Largest response body accepted, in octets. -/
  maxResponseBodyBytes : UInt64 := 8388608
  /-- Limits of the connection pool. -/
  pool : PoolLimits := {}
  logLevel : String := "info"
deriving DecidableEq, Repr

end Courier
