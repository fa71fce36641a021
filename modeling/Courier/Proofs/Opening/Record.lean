import Courier.Proofs.History
import Courier.WebSocket.Opening

/-!
# The record of a stream

What may stand in the record of a stream and its upgrade after what, and what the record says about
connections and handlers.
-/

namespace Courier.WebSocket.Opening

variable {η : Type}

/-- Whether an event belongs to the upgrade itself, and not to its surroundings. -/
def Event.isOwn : Event η → Bool
  | .setExceptionHandler _ | .setEndHandler _ | .closedClient => false
  | _ => true

/-- What the upgrade itself has done. -/
def own (history : List (Event η)) : List (Event η) := history.filter Event.isOwn

/-- A client that was open at first has not been closed. -/
def IsOpen (client : Client) (history : List (Event η)) : Prop :=
  client.closed = false ∧ .closedClient ∉ history

/-- What had happened when the upgrade started. -/
def beforeStart : List (Event η) → List (Event η)
  | [] => []
  | .started _ :: earlier => earlier
  | _ :: earlier => beforeStart earlier

def Event.exceptionHandler? : Event η → Option η
  | .setExceptionHandler handler => some handler
  | _ => none

/-- The exception handler that was set last. -/
def lastExceptionHandler (history : List (Event η)) : Option η :=
  (history.filterMap Event.exceptionHandler?).head?

def Event.endHandler? : Event η → Option η
  | .setEndHandler handler => some handler
  | _ => none

/-- The end handler that was set last. -/
def lastEndHandler (history : List (Event η)) : Option η :=
  (history.filterMap Event.endHandler?).head?

def Event.started? : Event η → Option η
  | .started handler => some handler
  | _ => none

/-- The success handlers that upgrades have started with. -/
def starters (history : List (Event η)) : List η := history.filterMap Event.started?

def Event.asked? : Event η → Option Endpoint
  | .asked _ endpoint => some endpoint
  | _ => none

/-- The endpoints that the pool has been asked for. -/
def asked (history : List (Event η)) : List Endpoint := history.filterMap Event.asked?

def Event.received? : Event η → Option Nat
  | .received arrival => some arrival.connection
  | _ => none

/-- The connections that have come. -/
def received (history : List (Event η)) : List Nat := history.filterMap Event.received?

def Event.released? : Event η → Option Nat
  | .released connection => some connection
  | _ => none

/-- The connections that were given back. -/
def released (history : List (Event η)) : List Nat := history.filterMap Event.released?

def Event.outcome? : Event η → Option Stage
  | .succeeded connection => some (.opened connection)
  | .failed error => some (.failed error)
  | .dropped => some .dropped
  | _ => none

/-- The ways in which the upgrade has ended. -/
def outcomes (history : List (Event η)) : List Stage := history.filterMap Event.outcome?

def Event.isCall : Event η → Bool
  | .handed _ _ | .ended _ | .told _ _ => true
  | _ => false

/-- The handlers that were called. -/
def calls (history : List (Event η)) : List (Event η) := history.filter Event.isCall

/-- A handshake can be made for a stream of a client. -/
def Sayable (client : Client) (options : Options) : Prop :=
  ∃ key handshake, options.handshake (options.destination client.config) key = .ok handshake

/-- Why an upgrade fails: because of the answer of its pool, because its client was closed before
it could ask again, because it has received an invalid connection again, or because of the
handshake. -/
inductive Fails (client : Client) (options : Options) (history : List (Event η)) :
    ClientError → Prop where
  | unanswered {purpose : Purpose} {endpoint : Endpoint} {rest : List (Event η)}
      (last : own history = .asked purpose endpoint :: rest) (error : ConnectError) :
      Fails client options history (.connect error)
  | closed {arrival : Arrival} {first : Event η} {handler : η}
      (last : own history =
        [.released arrival.connection, .received arrival, first, .started handler])
      (invalid : arrival.valid = false) (closed : ¬IsOpen client history) :
      Fails client options history .clientClosed
  | invalidated {arrival : Arrival} {purpose : Purpose} {endpoint : Endpoint} {connection : Nat}
      {rest : List (Event η)}
      (last : own history =
        .released arrival.connection :: .received arrival :: .asked purpose endpoint ::
          .released connection :: rest)
      (invalid : arrival.valid = false) :
      Fails client options history (.connect (.invalidated arrival.endpoint.text))
  | unsayable {connection : Nat} {rest : List (Event η)}
      (last : own history = .released connection :: .shook connection :: rest) {key : String}
      {error : ClientError}
      (refused : options.handshake (options.destination client.config) key = .error error) :
      Fails client options history error
  | refused {connection : Nat} {rest : List (Event η)}
      (last : own history = .released connection :: .shook connection :: rest)
      (said : Sayable client options) (error : WebSocketError) :
      Fails client options history (.webSocket error)

/-- What an event of a stream follows.  The upgrade asks the pool of an open client, and asks again
only after it has given the first connection back, which was invalid.  A handshake is made over a
valid connection that has just come.  The success handler is called after a success, and then the
end handler; the exception handler is called after a failure. -/
def Event.Follows (client : Client) (options : Options) (earlier : List (Event η)) :
    Event η → Prop
  | .setExceptionHandler _ | .setEndHandler _ | .closedClient => True
  | .started _ => own earlier = [] ∧ IsOpen client earlier
  | .asked purpose endpoint =>
    purpose = .webSocket ∧ endpoint = (options.destination client.config).endpoint ∧
      IsOpen client earlier ∧
        ((∃ handler, own earlier = [.started handler]) ∨
          ∃ (arrival : Arrival) (first : Event η) (handler : η),
            own earlier =
                [.released arrival.connection, .received arrival, first, .started handler] ∧
              arrival.valid = false)
  | .received _ => ∃ purpose endpoint rest, own earlier = .asked purpose endpoint :: rest
  | .shook connection =>
    ∃ arrival rest, own earlier = .received arrival :: rest ∧ arrival.valid = true ∧
      arrival.connection = connection
  | .released connection =>
    (∃ arrival rest, own earlier = .received arrival :: rest ∧ arrival.valid = false ∧
        arrival.connection = connection) ∨
      ∃ rest, own earlier = .shook connection :: rest
  | .succeeded connection =>
    (∃ rest, own earlier = .shook connection :: rest) ∧ Sayable client options
  | .failed error => Fails client options earlier error
  | .dropped =>
    (∃ purpose endpoint rest, own earlier = .asked purpose endpoint :: rest) ∨
      ∃ connection rest, own earlier = .released connection :: .shook connection :: rest
  | .handed handler connection =>
    (∃ rest, own earlier = .succeeded connection :: rest) ∧ starters earlier = [handler]
  | .ended handler =>
    (∃ first connection rest, own earlier = .handed first connection :: rest) ∧
      lastEndHandler (beforeStart earlier) = some handler
  | .told handler error =>
    (∃ rest, own earlier = .failed error :: rest) ∧
      lastExceptionHandler (beforeStart earlier) = some handler

/-- What has become of an upgrade that is over. -/
def Upgrade.outcomes (upgrade : Upgrade η) : List Stage :=
  match upgrade.stage with
  | .acquiring | .handshaking _ => []
  | stage => [stage]

/-- The handlers that an upgrade has called, the latest first. -/
def Upgrade.calls (upgrade : Upgrade η) : List (Event η) :=
  match upgrade.stage with
  | .opened connection =>
    (upgrade.endHandler.map .ended).toList ++ [.handed upgrade.handler connection]
  | .failed error => (upgrade.exceptionHandler.map (.told · error)).toList
  | _ => []

/-- The connection that an upgrade holds. -/
def Upgrade.held (upgrade : Upgrade η) : List Nat :=
  match upgrade.stage with
  | .handshaking connection | .opened connection => [connection]
  | _ => []

/-- How many turns an upgrade can still have. -/
def Upgrade.left (upgrade : Upgrade η) : Nat :=
  match upgrade.stage with
  | .acquiring => 3 - upgrade.retries
  | .handshaking _ => 1
  | _ => 0

def Action.isTurn : Action η → Bool
  | .turn _ => true
  | _ => false

/-- Whether an action leaves the context of the upgrade running, or starts an upgrade on one that
runs. -/
def Action.sparesContext : Action η → Bool
  | .stopContext | .subscribe _ false => false
  | _ => true

end Courier.WebSocket.Opening
