import Courier.Http.Outgoing
import Courier.Http.ResponseReader
import Courier.Rehearsal.Report
import Courier.Send
import Courier.WebSocket.Handshake
import Courier.WebSocket.Upgrade

/-!
# The world of a rehearsal

Everything a script can refer to, and everything that runs on its own: drivers of contexts,
futures, exchanges over connections, peers, and tasks of dialing pools.  Whatever runs takes turns,
in the order in which it was woken.
-/

namespace Courier.Rehearsal

open Http (Headers Version)
open WebSocket (Message Handshake Session UpgradeStream)

/-- Identity of anything in a world; later ones are greater. -/
abbrev Id := Nat

/-- What is submitted to run once. -/
inductive Closure where
  /-- A closure of the script. -/
  | scripted (log : String) (next : Then)
  /-- A step of the script. -/
  | step (action : Action)
  /-- The delivery of an answer to a request for a connection. -/
  | deliver (handoff : Id)

/-- What runs when a context closes. -/
inductive HookAction where
  /-- A closure of the script. -/
  | scripted (log : String) (next : Then)
  | closeClient (client : Id)

/-- A context and what its driver is at. -/
structure ContextEntry where
  id : Id
  name : String
  /-- The context; its futures are given by identity. -/
  context : Context Closure Id HookAction
  /-- Whether the script holds it. -/
  held : Bool := true
  /-- Futures that its driver has taken over, in order. -/
  running : List Id := []
  /-- Those of them that can go on, in the order in which they were woken. -/
  woken : List Id := []

/-- A request for a connection. -/
structure HandoffEntry where
  id : Id
  /-- What both sides see. -/
  handoff : Handoff Id := {}
  endpoint : Endpoint
  protocol : Version
  purpose : Purpose
  /-- Context on which it is delivered. -/
  context : Option Id

/-- A lease of a connection. -/
structure Lease where
  /-- The dialing pool. -/
  pool : Id
  slot : Nat

/-- A connection that somebody holds. -/
structure Connection where
  id : Id
  endpoint : Endpoint
  protocol : Version
  valid : Bool
  /-- Name under which it is noticed when it is dropped. -/
  name : Option String := none
  /-- Its lease, if a dialing pool has leased it. -/
  lease : Option Lease := none

/-- What a peer is at. -/
inductive PeerStage where
  | start
  /-- It reads and forgets. -/
  | draining
  /-- It sends back what it reads; some is left to send. -/
  | echoing (left : Bytes)
  /-- It reads a request. -/
  | reading (arrived : Bytes)
  /-- It writes its response. -/
  | writing (left : Bytes)
  /-- It speaks as the server of a WebSocket; some messages are left to send. -/
  | talking (session : Session) (left : List Message) (stuck : Bool)
  | done

/-- The peer of a connection. -/
structure Peer where
  /-- Identity of the peer. -/
  id : Id
  connection : Id
  script : PeerScript
  stage : PeerStage := .start

/-- An exchange over a connection. -/
structure Exchange where
  id : Id
  connection : Id
  request : Http.Outgoing
  /-- What reading the response has to know. -/
  terms : Http.ReadingTerms
  /-- Whether the request has been taken up. -/
  begun : Bool := false
  /-- Octets of the request left to write. -/
  unsent : Bytes := []
  /-- How far reading has come. -/
  reading : Http.ResponseReading := .head []
  /-- Whether the sender can see that a head has arrived. -/
  announced : Bool := false
  /-- Whether the sender has asked for the body. -/
  wanted : Bool := false
  /-- What the sender gets. -/
  outcome : Option (Except ClientError Http.Reply) := none
  /-- Whether the sender is done with it. -/
  released : Bool := false

/-- What a send is at. -/
inductive SendStage where
  /-- An exchange is about to begin. -/
  | start
  /-- It waits for a connection. -/
  | acquiring (handoff : Id)
  /-- It waits for a response. -/
  | exchanging (exchange : Id)
  /-- A policy wants a second look at a response. -/
  | deciding (next : NextRequest) (response : Response)

/-- A send under way. -/
structure SendFuture where
  /-- Name of the request. -/
  name : String
  client : Id
  /-- The loop of exchanges. -/
  loop : SendLoop
  stage : SendStage := .start

/-- What an upgrade is at. -/
inductive UpgradeStage where
  /-- It waits for a connection. -/
  | acquiring (handoff : Id)
  /-- It makes the handshake over a connection. -/
  | handshaking (connection : Id) (handshake : Handshake) (progress : Handshake.Progress)

/-- An upgrade under way. -/
structure UpgradeFuture where
  /-- Name of the stream. -/
  stream : String
  /-- Label of the success handler. -/
  label : String
  /-- Label of the exception handler, if there is one. -/
  exceptionHandler : Option String
  /-- Label of the end handler, if there is one. -/
  endHandler : Option String
  client : Id
  /-- What was asked for. -/
  options : WebSocket.Options
  /-- Where the WebSocket is opened. -/
  destination : WebSocket.Destination
  /-- Connections replaced so far. -/
  retries : Nat := 0
  stage : UpgradeStage

/-- What runs until it is finished. -/
inductive FutureBody where
  /-- A future of the script, which may wait for a gate. -/
  | gated (log : String) (gate : Option Id)
  | send (send : SendFuture)
  | upgrade (upgrade : UpgradeFuture)
  /-- Waiting for an acquisition. -/
  | await (name : String) (handoff : Id)

structure Future where
  id : Id
  /-- Context that drives it, if one does. -/
  home : Option Id
  /-- Whether it never had a turn. -/
  fresh : Bool := true
  body : FutureBody

/-- A pool that follows plans. -/
structure ScriptedPool where
  name : String
  /-- Plans that were not used. -/
  plans : List Plan := []
  /-- Requests for connections. -/
  acquisitions : Nat := 0
  /-- Requests for connections that were left to the script. -/
  held : Nat := 0
  shutdowns : Nat := 0

inductive PoolState where
  /-- A pool that follows plans. -/
  | scripted (pool : ScriptedPool)
  /-- A pool that dials. -/
  | dialing (pool : TcpPool)

structure ClientEntry extends ClientLife where
  id : Id
  pool : Id
  /-- Its redirect policy. -/
  policy : PolicyScript := .standard

/-- A WebSocket to be opened, and its client. -/
structure StreamEntry where
  client : Id
  /-- The stream, with labels for handlers. -/
  stream : UpgradeStream String

/-- An open WebSocket. -/
structure Socket where
  connection : Id
  session : Session

/-- What takes turns. -/
inductive Process where
  | driver (context : Id)
  /-- A future that no context drives. -/
  | future (future : Id)
  | exchange (exchange : Id)
  | peer (peer : Id)
  /-- A task of a dialing pool. -/
  | serve (pool handoff : Id)
deriving DecidableEq, Repr

/-- Everything there is. -/
structure World where
  /-- What comes of dialing. -/
  network : Network
  /-- Next unused identity. -/
  next : Id := 0
  contexts : List ContextEntry := []
  /-- Requests for connections. -/
  handoffs : List HandoffEntry := []
  connections : List Connection := []
  /-- What connections are made of, as their holder sees it. -/
  links : List (Id × Link) := []
  peers : List Peer := []
  exchanges : List Exchange := []
  futures : List Future := []
  pools : List (Id × PoolState) := []
  clients : List ClientEntry := []
  openGates : List Id := []
  /-- Names of pools. -/
  poolNames : List (String × Id) := []
  /-- Handles of clients. -/
  clientNames : List (String × Id) := []
  /-- Requests not sent, with their clients. -/
  requests : List (String × Id × Request) := []
  /-- WebSockets to be opened. -/
  streams : List (String × StreamEntry) := []
  /-- Open WebSockets. -/
  sockets : List (String × Socket) := []
  /-- Requests for connections that the script answers. -/
  waiterNames : List (String × Id) := []
  /-- Acquisitions that are not settled, oldest first. -/
  acquisitionNames : List (String × Id) := []
  /-- Connections that the script holds. -/
  connectionNames : List (String × Id) := []
  /-- Connections that can be invalidated by name. -/
  marks : List (String × Id) := []
  /-- Close hooks. -/
  hookNames : List (String × Id) := []
  /-- Gates that were not opened, with the futures behind them. -/
  gateNames : List (String × Id) := []
  /-- Requests for connections that were left to the script so far. -/
  heldWaiters : Nat := 0
  /-- What waits for its turn. -/
  queue : List Process := []
  /-- What happened in this step, latest first. -/
  events : List Event := []
  /-- What was released in this step. -/
  released : List String := []

/-- A computation in a world. -/
abbrev Play := StateM World

/-! ## Names -/

/-- What a name stands for. -/
def find? {α : Type} (names : List (String × α)) (name : String) : Option α :=
  (names.find? (·.1 == name)).map (·.2)

/-- All names but one. -/
def without {α : Type} (names : List (String × α)) (name : String) : List (String × α) :=
  names.filter (·.1 != name)

/-- A name that stands for something else from now on. -/
def bindName {α : Type} (names : List (String × α)) (name : String) (value : α) :
    List (String × α) :=
  without names name ++ [(name, value)]

/-! ## Looking up and changing -/

namespace World

def context? (world : World) (id : Id) : Option ContextEntry := world.contexts.find? (·.id == id)

/-- A request for a connection. -/
def handoff? (world : World) (id : Id) : Option HandoffEntry := world.handoffs.find? (·.id == id)

def connection? (world : World) (id : Id) : Option Connection :=
  world.connections.find? (·.id == id)

/-- What a connection is made of. -/
def link? (world : World) (id : Id) : Option Link := (world.links.find? (·.1 == id)).map (·.2)

def peer? (world : World) (id : Id) : Option Peer := world.peers.find? (·.id == id)

def exchange? (world : World) (id : Id) : Option Exchange := world.exchanges.find? (·.id == id)

def future? (world : World) (id : Id) : Option Future := world.futures.find? (·.id == id)

def pool? (world : World) (id : Id) : Option PoolState :=
  (world.pools.find? (·.1 == id)).map (·.2)

def client? (world : World) (id : Id) : Option ClientEntry := world.clients.find? (·.id == id)

def contextName? (world : World) (id : Option Id) : Option String :=
  (id.bind world.context?).map (·.name)

/-- Whether somebody can still submit to a context: the script, a request for a connection that
is to be delivered on it, or a client made on it. -/
def isReachable (world : World) (context : Id) : Bool :=
  world.contexts.any (fun entry => entry.id == context && entry.held)
    || world.handoffs.any (fun entry => entry.context == some context
        && match entry.handoff.sender with | .held => true | _ => false)
    || world.clients.any (fun entry => entry.context == some context && !entry.gone)

/-- The context that a piece of code can reach as its own. -/
def reach (world : World) (home : Option Id) : Option Id := home.filter world.isReachable

/-- Whether a future keeps a client alive. -/
def FutureBody.holds (client : Id) : FutureBody → Bool
  | .send send => send.client == client
  | .upgrade upgrade => upgrade.client == client
  | _ => false

/-- Whether anything refers to a client. -/
def isReferenced (world : World) (client : Id) : Bool :=
  world.clientNames.any (·.2 == client)
    || world.requests.any (·.2.1 == client)
    || world.streams.any (·.2.client == client)
    || world.futures.any fun future => FutureBody.holds client future.body

end World

namespace Play

/-- A new identity. -/
def fresh : Play Id :=
  modifyGet fun world => (world.next, { world with next := world.next + 1 })

/-- Notes an event. -/
def emit (event : Event) : Play Unit :=
  modify fun world => { world with events := event :: world.events }

/-- Notes a release. -/
def release (name : String) : Play Unit :=
  modify fun world => { world with released := name :: world.released }

/-- Gives a process a turn, after all that wait for theirs. -/
def enqueue (process : Process) : Play Unit :=
  modify fun world =>
    if process ∈ world.queue then world else { world with queue := world.queue ++ [process] }

def updateContext (id : Id) (change : ContextEntry → ContextEntry) : Play Unit :=
  modify fun world =>
    { world with
      contexts := world.contexts.map fun entry => if entry.id == id then change entry else entry }

/-- Changes a request for a connection. -/
def updateHandoff (id : Id) (change : Handoff Id → Handoff Id) : Play Unit :=
  modify fun world =>
    { world with
      handoffs := world.handoffs.map fun entry =>
        if entry.id == id then { entry with handoff := change entry.handoff } else entry }

def updateConnection (id : Id) (change : Connection → Connection) : Play Unit :=
  modify fun world =>
    { world with
      connections := world.connections.map fun entry =>
        if entry.id == id then change entry else entry }

/-- Changes what a connection is made of. -/
def setLink (id : Id) (link : Link) : Play Unit :=
  modify fun world =>
    { world with
      links := world.links.map fun entry => if entry.1 == id then (id, link) else entry }

/-- Changes a peer. -/
def setPeerStage (id : Id) (stage : PeerStage) : Play Unit :=
  modify fun world =>
    { world with
      peers := world.peers.map fun peer => if peer.id == id then { peer with stage } else peer }

def updateExchange (id : Id) (change : Exchange → Exchange) : Play Unit :=
  modify fun world =>
    { world with
      exchanges := world.exchanges.map fun entry =>
        if entry.id == id then change entry else entry }

def updateFuture (id : Id) (change : Future → Future) : Play Unit :=
  modify fun world =>
    { world with
      futures := world.futures.map fun entry => if entry.id == id then change entry else entry }

/-- Changes a pool. -/
def setPool (id : Id) (state : PoolState) : Play Unit :=
  modify fun world =>
    { world with
      pools := world.pools.map fun entry => if entry.1 == id then (id, state) else entry }

def updateClient (id : Id) (change : ClientEntry → ClientEntry) : Play Unit :=
  modify fun world =>
    { world with
      clients := world.clients.map fun entry => if entry.id == id then change entry else entry }

/-- Wakes a future: the driver of its context or, without one, the future itself gets a turn. -/
def wake (id : Id) : Play Unit := do
  match (← get).future? id with
  | none => pure ()
  | some future =>
    match future.home with
    | none => enqueue (.future id)
    | some home =>
      updateContext home fun entry =>
        if id ∈ entry.running && id ∉ entry.woken then
          { entry with woken := entry.woken ++ [id] }
        else entry
      enqueue (.driver home)

end Play

end Courier.Rehearsal
