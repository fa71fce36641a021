import Courier.Pool.Turn

/-!
# A pool in service

A dialing pool with both sides of every request that was submitted to it and with every connection
that it has leased and nobody has dropped.  Requesters, the runtime, the network and contexts act
on it in any order.  An action is a turn: what a task does between two points where it waits is
not interrupted by anybody.
-/

namespace Courier

open Http (Version)

/-- Who waits for a connection, and what the pool has done about it. -/
structure Requester where
  id : Nat
  endpoint : Endpoint
  /-- Context on which the answer is delivered, if there is one. -/
  context : Option Nat
  /-- What both sides see. -/
  handoff : Handoff Nat := {}
  /-- Dials begun for it. -/
  dials : Nat := 0
  /-- The answer that the pool got rid of last. -/
  answer : Option (Answer Nat) := none
  /-- What the requester has got out of it. -/
  outcome : Option (Answer Nat) := none

/-- A connection with a lease that somebody holds or that is on its way. -/
structure LeasedConnection where
  id : Nat
  endpoint : Endpoint
  /-- The slot that its lease refers to. -/
  slot : Nat
  valid : Bool := true

/-- A pool in service. -/
structure Service where
  pool : TcpPool
  /-- Everybody who ever asked it for a connection. -/
  requesters : List Requester := []
  /-- The connections that exist. -/
  connections : List LeasedConnection := []
  /-- Contexts that were closed. -/
  closedContexts : List Nat := []
  /-- Next unused identity. -/
  next : Nat := 0

/-- What a turn made of the requester's answer; `connection` is the one it opened, if any. -/
def TcpPool.TurnResult.answer? (connection : Nat) : TcpPool.TurnResult → Option (Answer Nat)
  | .waiting | .silent => none
  | .failed error reception => if reception.accepted then some (.error error) else none
  | .opened _ _ reception => if reception.accepted then some (.ok connection) else none
  | .late _ reception => if reception.accepted then some (.error .poolClosed) else none

/-- The slot of the connection that a turn left on its way, if there is one. -/
def TcpPool.TurnResult.leasedFrom? : TcpPool.TurnResult → Option Nat
  | .opened slot _ reception => if reception.kept then some slot else none
  | _ => none

/-- The connections that a turn left on their way: one at most. -/
def TcpPool.TurnResult.made (connection : Nat) (endpoint : Endpoint)
    (result : TcpPool.TurnResult) : List LeasedConnection :=
  result.leasedFrom?.toList.map fun slot => { id := connection, endpoint, slot }

/-- Whether a turn of a task begins a dial. -/
def TcpPool.beginsDial (pool : TcpPool) (look : TcpPool.FirstLook)
    (view : TcpPool.RequesterView) (id : Nat) : Bool :=
  match pool.task? id with
  | none => false
  | some task =>
    match task.stage with
    | .dialing _ => false
    | _ => (pool.advance look view task).2.toBool

/-- A requester after a turn of its task, which may have begun a dial. -/
def Requester.afterTurn (requester : Requester) (connection : Nat) (turn : TcpPool.Turn)
    (begun : Bool) : Requester :=
  { requester with
    handoff := turn.handoff
    dials := requester.dials + begun.toNat
    answer := (turn.result.answer? connection).or requester.answer }

namespace Service

/-- A new pool. -/
def start (limits : PoolLimits) (tls : TlsOptions) (connector : Option Connector) : Service where
  pool := { limits, tls, connector }

/-- What happens next. -/
inductive Action where
  /-- Somebody asks for a connection, in a runtime or without one. -/
  | submit (runtime : Bool) (endpoint : Endpoint) (protocol : Version) (context : Option Nat)
  /-- The task of a request has a turn; if it dials, that is what comes of it. -/
  | serve (request : Nat) (look : TcpPool.FirstLook) (dialed : Dialed)
  /-- A requester gives up and keeps its side. -/
  | cancel (request : Nat)
  /-- A requester drops its side. -/
  | forsake (request : Nat)
  /-- A requester looks for its answer. -/
  | look (request : Nat)
  /-- A context runs the job that delivers an answer. -/
  | deliver (request : Nat)
  /-- A closed context drops the job that delivers an answer. -/
  | discard (request : Nat)
  /-- A requester drops a connection that it has got. -/
  | dropConnection (connection : Nat)
  | closeContext (context : Nat)
  /-- The pool is shut down. -/
  | shutdown

/-- The way of an answer.  A context accepts jobs until it is closed. -/
def route (service : Service) : Option Nat → Handoff.Route
  | none => .direct
  | some context => if service.closedContexts.contains context then .refused else .context

def requester? (service : Service) (id : Nat) : Option Requester :=
  service.requesters.find? (·.id == id)

def updateRequester (service : Service) (id : Nat) (change : Requester → Requester) : Service :=
  { service with
    requesters := service.requesters.map fun requester =>
      if requester.id == id then change requester else requester }

/-- Drops a connection, which ends its lease. -/
def dropConnection (service : Service) (id : Nat) : Service :=
  match service.connections.find? (·.id == id) with
  | none => service
  | some leased =>
    { service with
      pool := service.pool.endLease leased.slot leased.id
      connections := service.connections.filter (·.id != leased.id) }

/-- Drops an answer that was lost, if there is one. -/
def dropAnswer (service : Service) : Option (Answer Nat) → Service
  | some (.ok connection) => service.dropConnection connection
  | _ => service

/-- Changes the handoff of a request and drops the answer that is lost by it. -/
def changeHandoff (service : Service) (id : Nat)
    (change : Handoff Nat → Handoff Nat × Option (Answer Nat)) : Service :=
  match service.requester? id with
  | none => service
  | some requester =>
    (service.updateRequester id fun requester =>
      { requester with handoff := (change requester.handoff).1 }).dropAnswer
        (change requester.handoff).2

/-- Somebody asks for a connection. -/
def submit (service : Service) (runtime : Bool) (endpoint : Endpoint) (protocol : Version)
    (context : Option Nat) : Service :=
  let id := service.next
  let (pool, submitted) := service.pool.submit runtime id endpoint protocol
  let requester : Requester :=
    match submitted with
    | .spawned => { id, endpoint, context }
    | .failed error =>
      let (handoff, _) := ({} : Handoff Nat).resolve (service.route context) (.error error)
      { id, endpoint, context, handoff, answer := some (.error error) }
  { service with pool, requesters := service.requesters ++ [requester], next := id + 1 }

/-- A turn of the task of a requester; if it dials, that is what comes of it. -/
def turnOf (service : Service) (requester : Requester) (look : TcpPool.FirstLook)
    (dialed : Dialed) : TcpPool.Turn :=
  service.pool.turn (fun _ => dialed) look (service.route requester.context) requester.id
    service.next requester.handoff

/-- The task of a request has a turn. -/
def serve (service : Service) (id : Nat) (look : TcpPool.FirstLook) (dialed : Dialed) : Service :=
  match service.requester? id with
  | none => service
  | some requester =>
    let turn := service.turnOf requester look dialed
    let begun := service.pool.beginsDial look (.ofHandoff requester.handoff) id
    { service.updateRequester id (·.afterTurn service.next turn begun) with
      pool := turn.pool
      connections := service.connections ++ turn.result.made service.next requester.endpoint
      next := service.next + 1 }

/-- A requester looks for its answer, unless it has dropped its side or got an answer before. -/
def look (service : Service) (id : Nat) : Service :=
  match service.requester? id with
  | none => service
  | some requester =>
    if requester.outcome.isSome || !requester.handoff.listening then service
    else
      match requester.handoff.take with
      | (_, .pending) => service
      | (handoff, .ready answer) =>
        service.updateRequester id fun requester =>
          { requester with handoff, outcome := some answer }

/-- A context that was closed drops the job that delivers an answer. -/
def discard (service : Service) (id : Nat) : Service :=
  match service.requester? id with
  | none => service
  | some requester =>
    match requester.handoff.sender, service.route requester.context with
    | .inFlight _, .refused => service.changeHandoff id (·.dropSender)
    | _, _ => service

/-- Whether a requester has got a connection and not dropped it. -/
def isHeld (service : Service) (connection : Nat) : Bool :=
  !service.requesters.any fun requester => requester.handoff.connection? == some connection

/-- The pool is shut down. -/
def shutdown (service : Service) : Service :=
  let (pool, live) := service.pool.shutdown
  { service with
    pool
    connections := service.connections.map fun leased =>
      if live.contains leased.id then { leased with valid := false } else leased }

/-- What an action makes of a pool in service. -/
def step (service : Service) : Action → Service
  | .submit runtime endpoint protocol context => service.submit runtime endpoint protocol context
  | .serve request look dialed => service.serve request look dialed
  | .cancel request => service.changeHandoff request fun handoff => (handoff.cancel, none)
  | .forsake request => service.changeHandoff request (·.dropReceiver)
  | .look request => service.look request
  | .deliver request => service.changeHandoff request (·.publish)
  | .discard request => service.discard request
  | .dropConnection connection =>
    if service.isHeld connection then service.dropConnection connection else service
  | .closeContext context => { service with closedContexts := context :: service.closedContexts }
  | .shutdown => service.shutdown

/-- What actions make of a pool in service, one after the other. -/
def run (service : Service) (actions : List Action) : Service := actions.foldl step service

end Service

end Courier
