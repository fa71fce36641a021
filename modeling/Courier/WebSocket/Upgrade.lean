import Courier.Client
import Courier.Endpoint
import Courier.WebSocket.Options

/-!
# Upgrades

A WebSocket is asked for once: the first success handler starts the upgrade, and the handlers for
failure and end are taken along as they stand then.  A connection that turns out to be invalid is
replaced once.
-/

namespace Courier.WebSocket

/-- The endpoint that the connection of a WebSocket leads to. -/
def Destination.endpoint (destination : Destination) : Endpoint :=
  ⟨destination.host, destination.port, destination.secure⟩

/-- A WebSocket to be opened, with handlers. -/
structure UpgradeStream (η : Type) where
  /-- What is asked for. -/
  options : Options
  /-- Whether a success handler was ever set. -/
  subscribed : Bool := false
  /-- Handler of a failure. -/
  exceptionHandler : Option η := none
  /-- Handler that runs after success. -/
  endHandler : Option η := none

namespace UpgradeStream

variable {η : Type}

/-- Whether a destination and a path can be used at all. -/
def checkArguments (destination : Destination) (uri : String) : Except ClientError Unit :=
  if destination.host.isEmpty then .error (.invalidArgument .emptyHost)
  else if uri.isEmpty then .error (.invalidArgument .emptyUri)
  else .ok ()

/-- What setting a success handler comes to. -/
inductive Subscription where
  /-- One was set before, and this one is ignored. -/
  | ignored
  /-- The upgrade cannot start. -/
  | failed (error : ClientError)
  /-- The upgrade starts with a connection to a destination. -/
  | started (destination : Destination)
deriving DecidableEq, Repr

/-- Sets a success handler on a stream of a client. -/
def subscribe (stream : UpgradeStream η) (client : Client) : UpgradeStream η × Subscription :=
  if stream.subscribed then (stream, .ignored)
  else
    let stream := { stream with subscribed := true }
    let destination := stream.options.destination client.config
    match checkArguments destination stream.options.uri with
    | .error error => (stream, .failed error)
    | .ok () =>
      if client.closed then (stream, .failed .clientClosed) else (stream, .started destination)

/-- Hands the handlers over to the upgrade that starts. -/
def takeHandlers (stream : UpgradeStream η) : UpgradeStream η × Option η × Option η :=
  ({ stream with exceptionHandler := none, endHandler := none }, stream.exceptionHandler,
    stream.endHandler)

end UpgradeStream

/-- Most connections that are replaced in one upgrade. -/
def maxRetries : Nat := 1

/-- What follows the arrival of a connection. -/
inductive UpgradeTurn where
  /-- The handshake is made over it. -/
  | handshake
  /-- It is dropped and another one asked for. -/
  | retry
  /-- The upgrade fails. -/
  | fail (error : ClientError)
deriving DecidableEq, Repr

/-- Judges a connection to an endpoint after a number of retries. -/
def upgradeTurn (retries : Nat) (endpoint : Endpoint) (valid : Bool) : UpgradeTurn :=
  if valid then .handshake
  else if retries ≥ maxRetries then .fail (.connect (.invalidated endpoint.text))
  else .retry

end Courier.WebSocket
