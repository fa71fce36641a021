import Courier.Client

/-!
# Dispatching

A call is refused for its arguments, or because the client was closed, or it becomes a request.  The
request names its origin in the same way whether it goes there itself or through a proxy.
-/

namespace Courier

open Http (Headers)

variable {client : Client} {method host uri : String} {port : UInt16} {secure : Bool}
  {headers : Option Headers} {tunnel : Tunnel}

/-! ## Routes -/

@[simp] theorem lower_proxyAuthorization : Ascii.lower proxyAuthorization = proxyAuthorization := by
  decide

/-- What a tunnel makes of a plain request for a host that is not empty. -/
def Tunnel.enclosed (tunnel : Tunnel) (host : String) (port : UInt16) (uri : String)
    (headers : Option Headers) : Tunnelled where
  uri := "http://" ++ authority host port plainPort ++ uri
  headers := tunnel.authorize headers
  connectHost := tunnel.proxy.host
  connectPort := tunnel.proxy.port
  hostHeader := authority host port plainPort

theorem Tunnel.enclose_eq (named : host.isEmpty = false) :
    tunnel.enclose host port uri headers = .ok (tunnel.enclosed host port uri headers) := by
  simp [enclose, named, enclosed]

namespace Client

/-- The tunnel that a request takes, if it takes one. -/
def tunnelFor? (client : Client) (secure : Bool) : Option Tunnel :=
  if secure then none else Tunnel.ofConfig? client.config

@[simp] theorem tunnelFor?_secure : client.tunnelFor? true = none := rfl

@[simp] theorem tunnelFor?_plain :
    client.tunnelFor? false = Tunnel.ofConfig? client.config := rfl

theorem plain_of_tunnelFor? (tunnelled : client.tunnelFor? secure = some tunnel) :
    secure = false := by
  cases secure with
  | false => rfl
  | true => simp at tunnelled

/-- The request for a host, on its way to the origin or to the proxy. -/
def routed (client : Client) (method host : String) (port : UInt16) (secure : Bool) (uri : String)
    (headers : Option Headers) : Request :=
  match client.tunnelFor? secure with
  | some tunnel =>
    { method
      target := tunnelledTarget host port (tunnel.enclosed host port uri headers)
      headers := tunnel.authorize headers
      followRedirects := client.config.followRedirects }
  | none =>
    { method
      target := directTarget host port secure uri
      headers
      followRedirects := client.config.followRedirects }

theorem dispatch_eq (client : Client) (method host : String) (port : UInt16)
    (secure : Option Bool) (uri : String) (headers : Option Headers) :
    client.dispatch method host port secure uri headers =
      if (bareHost host).isEmpty then .error (.invalidArgument .emptyHost)
      else if uri.isEmpty then .error (.invalidArgument .emptyUri)
      else if client.closed then .error .clientClosed
      else .ok (client.routed method (bareHost host) port (secure.getD client.config.secure) uri
        headers) := by
  rw [dispatch]
  cases empty_host : (bareHost host).isEmpty with
  | true => rfl
  | false =>
      cases uri.isEmpty with
      | true => rfl
      | false =>
          cases client.closed with
          | true => rfl
          | false =>
              cases secure.getD client.config.secure with
              | true =>
                  cases tunnelled : Tunnel.ofConfig? client.config <;> simp [routed] <;> rfl
              | false =>
                  cases tunnelled : Tunnel.ofConfig? client.config with
                  | none =>
                      simp [routed, tunnelled]
                      rfl
                  | some tunnel =>
                      simp [routed, tunnelled, Tunnel.enclose_eq empty_host, bind, Except.bind]
                      rfl

/-- A call becomes a request exactly if it names a host and a URI and the client is open. -/
theorem dispatch_ok_iff {secure : Option Bool} {request : Request} :
    client.dispatch method host port secure uri headers = .ok request ↔
      (bareHost host).isEmpty = false ∧ uri.isEmpty = false ∧ client.closed = false ∧
        client.routed method (bareHost host) port (secure.getD client.config.secure) uri headers =
          request := by
  rw [dispatch_eq]
  cases (bareHost host).isEmpty <;> cases uri.isEmpty <;> cases client.closed <;> simp

/-- A URL becomes a request for the host and port that it has, in the security of its scheme. -/
theorem dispatchAbsolute_cases {text : String} {request : Request}
    (made : client.dispatchAbsolute method text = .ok request) :
    ∃ url secure host, Url.parse text = .ok url ∧ schemeSecurity? url.scheme = some secure ∧
      url.hostText? = some host ∧
      client.dispatch method host (url.port.getD (defaultPort secure)) (some secure) url.target
        none = .ok request := by
  rw [dispatchAbsolute] at made
  cases parsed : Url.parse text with
  | error cause => simp [parsed] at made
  | ok url =>
      cases security : schemeSecurity? url.scheme with
      | none => simp [parsed, security] at made
      | some secure =>
          cases named : url.hostText? with
          | none => simp [parsed, security, named] at made
          | some host =>
              simp only [parsed, security, named] at made
              exact ⟨url, secure, host, rfl, security, named, made⟩

theorem routed_tunnelled (tunnelled : client.tunnelFor? secure = some tunnel) :
    client.routed method host port secure uri headers =
      { method
        target := tunnelledTarget host port (tunnel.enclosed host port uri headers)
        headers := tunnel.authorize headers
        followRedirects := client.config.followRedirects } := by
  simp only [routed, tunnelled]

theorem routed_direct (direct : client.tunnelFor? secure = none) :
    client.routed method host port secure uri headers =
      { method
        target := directTarget host port secure uri
        headers
        followRedirects := client.config.followRedirects } := by
  simp only [routed, direct]

/-- What a request is, but for its route. -/
theorem routed_common (client : Client) (method host : String) (port : UInt16) (secure : Bool)
    (uri : String) (headers : Option Headers) :
    let request := client.routed method host port secure uri headers
    request.method = method ∧ request.target.host = host ∧ request.target.port = port ∧
      request.target.secure = secure ∧
      request.target.hostHeader = authority host port (defaultPort secure) ∧ request.body = [] ∧
      request.followRedirects = client.config.followRedirects := by
  cases route : client.tunnelFor? secure with
  | none =>
      rw [routed_direct route]
      exact ⟨rfl, rfl, rfl, rfl, rfl, rfl, rfl⟩
  | some tunnel =>
      rw [routed_tunnelled route]
      cases plain_of_tunnelFor? route
      exact ⟨rfl, rfl, rfl, rfl, rfl, rfl, rfl⟩

end Client

/-! ## Absolute URIs -/

/-- Whether a text is taken for an absolute URI. -/
def isAbsolute (uri : String) : Bool :=
  "http://".toList.isPrefixOf uri.toList || "https://".toList.isPrefixOf uri.toList

/-- The scheme of a request. -/
def schemeName (secure : Bool) : String := if secure then "https" else "http"

theorem Request.absoluteUri_eq (request : Request) :
    request.absoluteUri =
      if isAbsolute request.target.uri then request.target.uri
      else schemeName request.target.secure ++ "://" ++ request.target.hostHeader ++
        request.target.uri := rfl

theorem isAbsolute_append (text : String) : isAbsolute ("http://" ++ text) = true := by
  simp [isAbsolute]

/-- On either route a request tells its absolute URI from its security, its host and port, and the
URI that it was dispatched with.  Only where it goes straight to its origin with a URI that is taken
for an absolute one, it tells that. -/
theorem Client.absoluteUri_routed (method : String) (headers : Option Headers)
    (tells : isAbsolute uri = false ∨ client.tunnelFor? secure ≠ none) :
    (client.routed method host port secure uri headers).absoluteUri =
      schemeName secure ++ "://" ++ authority host port (defaultPort secure) ++ uri := by
  cases route : client.tunnelFor? secure with
  | none =>
      have relative := tells.resolve_right (absurd route)
      rw [routed_direct route, Request.absoluteUri_eq]
      exact if_neg (by simp [directTarget, relative])
  | some tunnel =>
      cases plain_of_tunnelFor? route
      have absolute := isAbsolute_append (authority host port plainPort ++ uri)
      rw [← String.append_assoc] at absolute
      rw [routed_tunnelled route, Request.absoluteUri_eq]
      exact if_pos absolute

end Courier
