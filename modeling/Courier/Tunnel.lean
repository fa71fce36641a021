import Courier.Config.Basic
import Courier.Error
import Courier.Host
import Courier.Http.Headers
import Courier.Http.Outgoing
import Courier.Text.Base64

/-!
# Tunnels through a forward proxy

A plain client with an HTTP proxy sends its plain requests to the proxy: the connection leads to
the proxy, the request target becomes absolute, and configured credentials replace any that the
caller supplied.  Secure requests and other kinds of proxy are not tunnelled.
-/

namespace Courier

open Http (Headers)

/-- The header that carries proxy credentials. -/
def proxyAuthorization : String := "proxy-authorization"

/-- The way through a forward proxy. -/
structure Tunnel where
  proxy : Proxy
  /-- Value of the credentials header, if credentials are configured. -/
  authorization : Option Bytes
deriving DecidableEq, Repr

/-- What a request becomes on its way through a proxy. -/
structure Tunnelled where
  /-- Absolute request target. -/
  uri : String
  /-- Headers, created only where something had to be added. -/
  headers : Option Headers
  connectHost : String
  connectPort : UInt16
  /-- Value of the `Host` header, which names the origin. -/
  hostHeader : String
deriving DecidableEq, Repr

namespace Tunnel

/-- The value of the credentials header for a user and a password. -/
def basicCredentials (username password : String) : Bytes :=
  Bytes.ofString ("Basic " ++ Base64.encode (Bytes.ofString (username ++ ":" ++ password)))

/-- The credentials of a proxy, as far as they can stand in a header; a user without a password has
none. -/
def credentials? (proxy : Proxy) : Option Bytes := do
  let value := basicCredentials (← proxy.username) (← proxy.password)
  if Http.isHeaderText value then some value else none

/-- The tunnel of a configuration, if its requests are tunnelled. -/
def ofConfig? (config : Config) : Option Tunnel :=
  match config.proxy with
  | some proxy =>
    if config.secure || proxy.kind != .http then none
    else some ⟨proxy, credentials? proxy⟩
  | none => none

/-- The headers of a tunnelled request. -/
def authorize (tunnel : Tunnel) (headers : Option Headers) : Option Headers :=
  match tunnel.authorization with
  | some value => some ((headers.getD .empty).insert proxyAuthorization value)
  | none => headers

/-- A plain request for an origin, on its way through the proxy. -/
def enclose (tunnel : Tunnel) (host : String) (port : UInt16) (uri : String)
    (headers : Option Headers) : Except ClientError Tunnelled :=
  if host.isEmpty then .error (.invalidArgument .emptyHost)
  else
    let origin := authority host port plainPort
    .ok {
      uri := "http://" ++ origin ++ uri
      headers := tunnel.authorize headers
      connectHost := tunnel.proxy.host
      connectPort := tunnel.proxy.port
      hostHeader := origin }

end Tunnel

end Courier
