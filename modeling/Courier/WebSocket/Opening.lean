import Courier.Handoff
import Courier.WebSocket.Handshake
import Courier.WebSocket.Upgrade

/-!
# Opening a WebSocket

A stream of a client is given handlers, and its first success handler starts an upgrade.  The
upgrade goes on in turns: it takes the answer of the pool, makes the handshake and calls its
handlers.  Between its turns others set handlers, close the client and stop the context that the
upgrade runs on.  A record is kept of all that happens.
-/

namespace Courier.WebSocket

namespace Opening

/-- A connection that has come from the pool. -/
structure Arrival where
  connection : Nat
  endpoint : Endpoint
  valid : Bool

inductive Stage where
  /-- The pool was asked for a connection. -/
  | acquiring
  /-- The handshake has begun over a connection. -/
  | handshaking (connection : Nat)
  /-- A WebSocket over a connection was handed over. -/
  | opened (connection : Nat)
  | failed (error : ClientError)
  /-- The context of the upgrade was stopped before it was over. -/
  | dropped

structure Upgrade (η : Type) where
  destination : Destination
  handler : η
  exceptionHandler : Option η
  endHandler : Option η
  /-- Connections that were replaced. -/
  retries : Nat := 0
  stage : Stage := .acquiring

inductive Event (η : Type) where
  | setExceptionHandler (handler : η)
  | setEndHandler (handler : η)
  | closedClient
  /-- An upgrade starts, with its success handler. -/
  | started (handler : η)
  | asked (purpose : Purpose) (endpoint : Endpoint)
  | received (arrival : Arrival)
  | released (connection : Nat)
  /-- The handshake begins over a connection. -/
  | shook (connection : Nat)
  | succeeded (connection : Nat)
  | failed (error : ClientError)
  | dropped
  /-- The success handler is called. -/
  | handed (handler : η) (connection : Nat)
  /-- The end handler is called. -/
  | ended (handler : η)
  /-- The exception handler is called. -/
  | told (handler : η) (error : ClientError)

/-- What an upgrade learns from outside in its next turn.  It looks only at what it waits for. -/
structure Outside where
  answer : Answer Arrival
  /-- The key of a handshake. -/
  key : String
  /-- What the peer makes of the handshake. -/
  outcome : Except WebSocketError Unit

inductive Action (η : Type) where
  | setExceptionHandler (handler : η)
  | setEndHandler (handler : η)
  /-- A success handler is set, from a context that accepts an upgrade or does not. -/
  | subscribe (handler : η) (accepted : Bool)
  | closeClient
  /-- The context of the upgrade is stopped. -/
  | stopContext
  | turn (outside : Outside)

end Opening

/-- A stream of a client, and the upgrade that it has started. -/
structure Opening (η : Type) where
  client : Client
  stream : UpgradeStream η
  upgrade : Option (Opening.Upgrade η) := none
  /-- What has happened, the latest first. -/
  history : List (Opening.Event η) := []

namespace Opening

variable {η : Type}

/-- A client makes a stream. -/
def start (client : Client) (options : Options) : Opening η where
  client := client
  stream := { options }

def note (opening : Opening η) (event : Event η) : Opening η :=
  { opening with history := event :: opening.history }

def setUpgrade (opening : Opening η) (upgrade : Upgrade η) : Opening η :=
  { opening with upgrade := some upgrade }

/-- The upgrade asks the pool for a connection. -/
def ask (opening : Opening η) (upgrade : Upgrade η) : Opening η :=
  (opening.note (.asked .webSocket upgrade.destination.endpoint)).setUpgrade
    { upgrade with stage := .acquiring }

/-- A handler is called if there is one. -/
def call (opening : Opening η) : Option (Event η) → Opening η
  | some event => opening.note event
  | none => opening

def fail (opening : Opening η) (upgrade : Upgrade η) (error : ClientError) : Opening η :=
  ((opening.note (.failed error)).call (upgrade.exceptionHandler.map (.told · error))).setUpgrade
    { upgrade with stage := .failed error }

def succeed (opening : Opening η) (upgrade : Upgrade η) (connection : Nat) : Opening η :=
  let handed := (opening.note (.succeeded connection)).note (.handed upgrade.handler connection)
  (handed.call (upgrade.endHandler.map .ended)).setUpgrade
    { upgrade with stage := .opened connection }

/-- A connection goes to the handshake, which may turn out to be impossible. -/
def shake (opening : Opening η) (upgrade : Upgrade η) (key : String) (connection : Nat) :
    Opening η :=
  let shook := opening.note (.shook connection)
  match opening.stream.options.handshake upgrade.destination key with
  | .error error => (shook.note (.released connection)).fail upgrade error
  | .ok _ => shook.setUpgrade { upgrade with stage := .handshaking connection }

/-- A connection was given back, and another one takes its place if the client is still open. -/
def retry (opening : Opening η) (upgrade : Upgrade η) : Opening η :=
  if opening.client.closed then opening.fail upgrade .clientClosed
  else opening.ask { upgrade with retries := upgrade.retries + 1 }

/-- A connection has come from the pool. -/
def judge (opening : Opening η) (upgrade : Upgrade η) (key : String) (arrival : Arrival) :
    Opening η :=
  let received := opening.note (.received arrival)
  match upgradeTurn upgrade.retries arrival.endpoint arrival.valid with
  | .handshake => received.shake upgrade key arrival.connection
  | .retry => (received.note (.released arrival.connection)).retry upgrade
  | .fail error => (received.note (.released arrival.connection)).fail upgrade error

/-- The peer has answered the handshake over a connection. -/
def hear (opening : Opening η) (upgrade : Upgrade η) (connection : Nat) :
    Except WebSocketError Unit → Opening η
  | .error error => (opening.note (.released connection)).fail upgrade (.webSocket error)
  | .ok () => opening.succeed upgrade connection

def turn (opening : Opening η) (outside : Outside) : Opening η :=
  match opening.upgrade with
  | none => opening
  | some upgrade =>
    match upgrade.stage, outside.answer with
    | .acquiring, .error error => opening.fail upgrade (.connect error)
    | .acquiring, .ok arrival => opening.judge upgrade outside.key arrival
    | .handshaking connection, _ => opening.hear upgrade connection outside.outcome
    | _, _ => opening

/-- The context of the upgrade is stopped, which drops an upgrade that is not over. -/
def stopContext (opening : Opening η) : Opening η :=
  match opening.upgrade with
  | none => opening
  | some upgrade =>
    let dropped := { upgrade with stage := .dropped }
    match upgrade.stage with
    | .acquiring => (opening.note .dropped).setUpgrade dropped
    | .handshaking connection =>
      ((opening.note (.released connection)).note .dropped).setUpgrade dropped
    | _ => opening

/-- Sets a success handler; an upgrade that starts takes the other handlers with it, and runs on a
context that accepts it. -/
def subscribe (opening : Opening η) (handler : η) (accepted : Bool) :
    Opening η × Except ClientError Unit :=
  let (stream, subscription) := opening.stream.subscribe opening.client
  match subscription with
  | .ignored => ({ opening with stream }, .ok ())
  | .failed error => ({ opening with stream }, .error error)
  | .started destination =>
    let (stream, exceptionHandler, endHandler) := stream.takeHandlers
    let started := ({ opening with stream }.note (.started handler)).ask
      { destination, handler, exceptionHandler, endHandler }
    (if accepted then started else started.stopContext, .ok ())

def setExceptionHandler (opening : Opening η) (handler : η) : Opening η :=
  { opening.note (.setExceptionHandler handler) with
    stream := { opening.stream with exceptionHandler := some handler } }

def setEndHandler (opening : Opening η) (handler : η) : Opening η :=
  { opening.note (.setEndHandler handler) with
    stream := { opening.stream with endHandler := some handler } }

def closeClient (opening : Opening η) : Opening η :=
  { opening.note .closedClient with client := { opening.client with closed := true } }

def step (opening : Opening η) : Action η → Opening η
  | .setExceptionHandler handler => opening.setExceptionHandler handler
  | .setEndHandler handler => opening.setEndHandler handler
  | .subscribe handler accepted => (opening.subscribe handler accepted).1
  | .closeClient => opening.closeClient
  | .stopContext => opening.stopContext
  | .turn outside => opening.turn outside

/-- What actions make of a stream, one after the other. -/
def run (opening : Opening η) (actions : List (Action η)) : Opening η := actions.foldl step opening

end Opening

end Courier.WebSocket
