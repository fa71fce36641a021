import Courier.Error
import Courier.Request
import Courier.Tls
import Courier.Tunnel
import Courier.Url.Parser

/-!
# Clients

A client turns calls into requests.  `create` says which configurations and contexts it can be
made from, `dispatch` builds a request for a host, `dispatchAbsolute` one for a URL and `request`
one for the configured default.
-/

namespace Courier

open Http (Headers)

/-- How a context schedules its work. -/
inductive ContextKind where
  /-- Non-blocking event loop. -/
  | eventLoop
  /-- Context whose work may block. -/
  | worker
  /-- Context whose work may run on several threads at once. -/
  | multiThreadedWorker
deriving DecidableEq, Repr

/-- What a client builds requests from. -/
structure Client where
  config : Config
  /-- Whether the client was closed. -/
  closed : Bool := false
deriving DecidableEq, Repr

namespace Client

/-- What a context of some kind has against a configuration. -/
def contextProblem? (config : Config) : Option ContextKind → Option BadConfiguration
  | some .multiThreadedWorker => some .severalThreads
  | some .worker => if config.protocolVersion == .http2 then some .blockingHttp2 else none
  | _ => none

/-- Makes a client on a context, if there is one. -/
def create (config : Config) (context : Option ContextKind) : Except ClientError Client :=
  match config.problems with
  | [] =>
    match contextProblem? config context with
    | some problem => .error (.invalidConfiguration problem)
    | none => .ok { config }
  | problems => .error (.invalidConfiguration (.invalid problems))

/-- The target of a request that goes straight to its origin. -/
def directTarget (host : String) (port : UInt16) (secure : Bool) (uri : String) : Target where
  host := host
  port := port
  secure := secure
  uri := uri
  connectHost := host
  connectPort := port
  hostHeader := authority host port (defaultPort secure)

/-- The target of a request that goes through a proxy. -/
def tunnelledTarget (host : String) (port : UInt16) (tunnelled : Tunnelled) : Target where
  host := host
  port := port
  secure := false
  uri := tunnelled.uri
  connectHost := tunnelled.connectHost
  connectPort := tunnelled.connectPort
  hostHeader := tunnelled.hostHeader

/-- Builds a request; without a word on security the configuration decides. -/
def dispatch (client : Client) (method host : String) (port : UInt16) (secure : Option Bool)
    (uri : String) (headers : Option Headers) : Except ClientError Request := do
  let host := bareHost host
  if host.isEmpty then throw (.invalidArgument .emptyHost)
  if uri.isEmpty then throw (.invalidArgument .emptyUri)
  if client.closed then throw .clientClosed
  let secure := secure.getD client.config.secure
  let followRedirects := client.config.followRedirects
  match Tunnel.ofConfig? client.config, secure with
  | some tunnel, false =>
    let tunnelled ← tunnel.enclose host port uri headers
    return { method, target := tunnelledTarget host port tunnelled,
             headers := tunnelled.headers, followRedirects }
  | _, _ => return { method, target := directTarget host port secure uri, headers, followRedirects }

/-- Whether a scheme is secure, which its last letter tells. -/
def schemeSecurity? (scheme : String) : Option Bool :=
  match scheme.toList.getLast? with
  | some 'p' => some false
  | some 's' => some true
  | _ => none

/-- Builds a request for a URL. -/
def dispatchAbsolute (client : Client) (method text : String) : Except ClientError Request := do
  match Url.parse text with
  | .error cause => throw (.invalidArgument (.badUrl text cause))
  | .ok url =>
    let some secure := schemeSecurity? url.scheme
      | throw (.invalidArgument (.unsupportedScheme url.scheme))
    let some host := url.hostText?
      | throw (.invalidArgument (.noHost text))
    let port := url.port.getD (defaultPort secure)
    client.dispatch method host port (some secure) url.target none

/-- Builds a request for the default host and port. -/
def request (client : Client) (method uri : String) : Except ClientError Request :=
  client.dispatch method client.config.defaultHost client.config.defaultPort none uri none

end Client

/-- A client as long as it lives. -/
structure ClientLife where
  /-- What requests are built from. -/
  client : Client
  /-- Context it was made on. -/
  context : Option Nat
  /-- Its close hook there. -/
  hook : Nat
  /-- Whether nothing refers to it any more. -/
  gone : Bool := false
deriving DecidableEq, Repr

namespace ClientLife

/-- Closes a client.  Only the first close succeeds; then the close hook is to be removed and the
pool to be shut down. -/
def close (life : ClientLife) : ClientLife × Except ClientError Unit :=
  if life.client.closed then (life, .error .clientClosed)
  else ({ life with client := { life.client with closed := true } }, .ok ())

/-- Lets a client go to which nothing refers any more; tells whether the close hook is to be
removed and the pool to be shut down, as no close has done so. -/
def depart (life : ClientLife) : ClientLife × Bool :=
  ({ life with gone := true }, !life.client.closed)

/-- Whether a client may ask its pool for a connection. -/
def checkOpen (life : ClientLife) : Except ClientError Unit :=
  if life.client.closed then .error .clientClosed else .ok ()

end ClientLife

end Courier
