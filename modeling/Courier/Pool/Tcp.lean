import Courier.Network
import Courier.Pool.Metrics
import Courier.Pool.Slot
import Courier.Tls

/-!
# The dialing pool

The pool dials a connection of its own for every request.  Each request is served by a task: it
takes a permit of its endpoint's slot, dials, and hands the connection over with a lease, which
gives the permit back when the connection is dropped.  A slot knows how many refer to it, and
slots to which only the pool itself refers are forgotten whenever a task starts.
-/

namespace Courier

open Http (Version)

/-- What secures a stream. -/
inductive Connector where
  /-- Every handshake fails, for one reason. -/
  | failing (reason : String)
  /-- Every handshake agrees on a version. -/
  | agreeing (version : Version)
deriving DecidableEq, Repr

/-- How far a task has come; from the queue on it uses a slot. -/
inductive ServeStage where
  | spawned
  /-- It waits for a permit. -/
  | queued (slot : Nat)
  /-- It has a permit and waits for the network. -/
  | dialing (slot : Nat)
deriving DecidableEq, Repr

/-- A task that serves one request. -/
structure ServeTask where
  id : Nat
  endpoint : Endpoint
  protocol : Version
  stage : ServeStage := .spawned
deriving DecidableEq, Repr

def ServeStage.slot? : ServeStage → Option Nat
  | .spawned => none
  | .queued slot | .dialing slot => some slot

/-- A slot that a pool keeps for its endpoint. -/
structure KeptSlot where
  id : Nat
  slot : Slot
  /-- References to it: the pool's own, and one of each task and each lease that uses it. -/
  references : Nat := 1
deriving DecidableEq, Repr

/-- Changes a slot and how many refer to it. -/
def KeptSlot.update (kept : KeptSlot) (change : Slot → Slot) (count : Nat → Nat) : KeptSlot :=
  { kept with slot := change kept.slot, references := count kept.references }

/-- A pool that dials. -/
structure TcpPool where
  limits : PoolLimits
  /-- What the TLS layer is told. -/
  tls : TlsOptions
  /-- What secures a stream, if anything does. -/
  connector : Option Connector := none
  /-- Whether the pool was shut down. -/
  closed : Bool := false
  /-- Connections handed over so far. -/
  established : Nat := 0
  /-- Requests failed so far. -/
  failed : Nat := 0
  slots : List KeptSlot := []
  /-- Tasks that have not finished. -/
  tasks : List ServeTask := []
  /-- Next unused identity of a slot. -/
  nextSlot : Nat := 0
deriving DecidableEq, Repr

namespace TcpPool

/-- Most permits that a slot can have. -/
def permitLimit : Nat := UInt64.size / 8 - 1

def slot? (pool : TcpPool) (id : Nat) : Option KeptSlot := pool.slots.find? (·.id == id)

def slotOf? (pool : TcpPool) (endpoint : Endpoint) : Option KeptSlot :=
  pool.slots.find? (·.slot.endpoint == endpoint)

/-- The task of a request. -/
def task? (pool : TcpPool) (id : Nat) : Option ServeTask := pool.tasks.find? (·.id == id)

/-- Changes the slot of an identity and how many refer to it. -/
def updateSlot (pool : TcpPool) (id : Nat) (change : Slot → Slot) (count : Nat → Nat) : TcpPool :=
  { pool with
    slots := pool.slots.map fun kept =>
      if kept.id == id then kept.update change count else kept }

def changeSlot (pool : TcpPool) (id : Nat) (change : Slot → Slot) : TcpPool :=
  pool.updateSlot id change fun references => references

/-- Takes a reference to a slot. -/
def retain (pool : TcpPool) (id : Nat) : TcpPool := pool.updateSlot id (fun slot => slot) (· + 1)

/-- Drops a reference to a slot. -/
def release (pool : TcpPool) (id : Nat) : TcpPool := pool.updateSlot id (fun slot => slot) (· - 1)

/-- Forgets the slots to which only the pool refers. -/
def evictIdle (pool : TcpPool) : TcpPool :=
  { pool with slots := pool.slots.filter (·.references != 1) }

/-- A slot that nobody uses, for an endpoint. -/
def idleSlot (pool : TcpPool) (endpoint : Endpoint) : KeptSlot where
  id := pool.nextSlot
  slot := Slot.create endpoint pool.limits.maxPoolSize.toNat pool.limits.maxWaitQueueSize.toNat

/-- The slot of an endpoint, made if none is kept. -/
def ensureSlot (pool : TcpPool) (endpoint : Endpoint) : TcpPool × KeptSlot :=
  match pool.slotOf? endpoint with
  | some kept => (pool, kept)
  | none =>
    ({ pool with
        slots := pool.slots ++ [pool.idleSlot endpoint]
        nextSlot := pool.nextSlot + 1 },
      pool.idleSlot endpoint)

/-- What became of a submitted request. -/
inductive Submitted where
  /-- A task serves it. -/
  | spawned
  /-- It failed at once. -/
  | failed (error : ConnectError)
deriving DecidableEq, Repr

def countFailure (pool : TcpPool) : TcpPool := { pool with failed := pool.failed + 1 }

/-- Submits a request.  A closed pool refuses it, and without a runtime nothing can serve it. -/
def submit (pool : TcpPool) (runtime : Bool) (id : Nat) (endpoint : Endpoint)
    (protocol : Version) : TcpPool × Submitted :=
  if pool.closed then (pool.countFailure, .failed .poolClosed)
  else if runtime then
    ({ pool with tasks := pool.tasks ++ [{ id, endpoint, protocol }] }, .spawned)
  else (pool.countFailure, .failed (.io endpoint.text .noRuntime))

/-- What a turn of a task came to. -/
inductive Served where
  | waiting
  /-- The requester has given up. -/
  | givenUp
  /-- The task broke down. -/
  | crashed
  | failed (error : ConnectError)
  /-- A connection is open: its slot, and the protocol spoken on it. -/
  | connected (slot : Nat) (protocol : Version)
deriving DecidableEq, Repr

/-- What the requester has done. -/
structure RequesterView where
  cancelled : Bool
  /-- Whether it has dropped its side. -/
  dropped : Bool
deriving DecidableEq, Repr

/-- What a queued task looks at first; it has no preference. -/
inductive FirstLook where
  | reservation
  | requester
deriving DecidableEq, Repr

/-- Ends a task that uses no slot. -/
def endTask (pool : TcpPool) (id : Nat) : TcpPool :=
  { pool with tasks := pool.tasks.filter (·.id != id) }

/-- Ends a task, which drops its reference to a slot. -/
def leave (pool : TcpPool) (id slot : Nat) : TcpPool := (pool.release slot).endTask id

/-- Moves a task to a stage. -/
def moveTask (pool : TcpPool) (id : Nat) (stage : ServeStage) : TcpPool :=
  { pool with
    tasks := pool.tasks.map fun task => if task.id == id then { task with stage } else task }

/-- The protocol spoken on a plain stream: HTTP/1 of some kind. -/
def plainProtocol : Version → Version
  | .http10 => .http10
  | _ => .http11

/-- The protocol spoken on an open stream, after a handshake where the endpoint asks for one. -/
def negotiate (pool : TcpPool) (endpoint : Endpoint) (protocol : Version) :
    Except ConnectError Version :=
  if !endpoint.secure then .ok (plainProtocol protocol)
  else
    match pool.connector with
    | none => .error (.handshake endpoint.text "no TLS connector configured")
    | some (.failing reason) => .error (.handshake endpoint.text reason)
    | some (.agreeing version) => .ok version

/-- Ends a task that has a permit but no connection. -/
def giveUpPermit (pool : TcpPool) (id slot : Nat) : TcpPool :=
  (pool.changeSlot slot (·.returnPermit id)).leave id slot

/-- Goes on with a task whose reservation was answered: gives the slot whose permit it has, or
what its turn came to. -/
def afterReservation (pool : TcpPool) (view : RequesterView) (id slot : Nat) :
    Slot.Answer → TcpPool × Except Served Nat
  | .pending =>
    if view.dropped then ((pool.changeSlot slot (·.abandon id)).leave id slot, .error .givenUp)
    else (pool.moveTask id (.queued slot), .error .waiting)
  | .failed error => ((pool.leave id slot).countFailure, .error (.failed error))
  | .granted =>
    if view.cancelled then (pool.giveUpPermit id slot, .error .givenUp)
    else (pool.moveTask id (.dialing slot), .ok slot)

/-- Starts a task: finds the slot of its endpoint and asks it for a permit. -/
def start (pool : TcpPool) (view : RequesterView) (task : ServeTask) :
    TcpPool × Except Served Nat :=
  if view.cancelled then (pool.endTask task.id, .error .givenUp)
  else
    let pool := pool.evictIdle
    if pool.limits.maxPoolSize.toNat > permitLimit && (pool.slotOf? task.endpoint).isNone then
      (pool.endTask task.id, .error .crashed)
    else
      let (pool, kept) := pool.ensureSlot task.endpoint
      let (slot, answer) := kept.slot.reserve task.id
      ((pool.retain kept.id).changeSlot kept.id fun _ => slot).afterReservation view task.id
        kept.id answer

/-- Goes on with a task that waits for a permit. -/
def resume (pool : TcpPool) (look : FirstLook) (view : RequesterView) (id slotId : Nat) :
    TcpPool × Except Served Nat :=
  match pool.slot? slotId with
  | none => (pool.endTask id, .error .crashed)
  | some kept =>
    if look = .requester && view.dropped then
      ((pool.changeSlot slotId (·.abandon id)).leave id slotId, .error .givenUp)
    else
      let (slot, answer) := kept.slot.poll id
      (pool.changeSlot slotId fun _ => slot).afterReservation view id slotId answer

/-- Lets a task come as far as a permit. -/
def advance (pool : TcpPool) (look : FirstLook) (view : RequesterView) (task : ServeTask) :
    TcpPool × Except Served Nat :=
  match task.stage with
  | .spawned => pool.start view task
  | .queued slot => pool.resume look view task.id slot
  | .dialing slot => (pool, .ok slot)

/-- Dials for a task that has a permit. -/
def dial (pool : TcpPool) (network : Network) (task : ServeTask) (slot : Nat) : TcpPool × Served :=
  match network task.endpoint with
  | .pending => (pool, .waiting)
  | .failed error => ((pool.giveUpPermit task.id slot).countFailure, .failed error)
  | .connected =>
    match pool.negotiate task.endpoint task.protocol with
    | .error error => ((pool.giveUpPermit task.id slot).countFailure, .failed error)
    | .ok protocol => (pool, .connected slot protocol)

/-- One turn of a task.  A task that has finished gets none. -/
def poll (pool : TcpPool) (network : Network) (look : FirstLook) (view : RequesterView)
    (id : Nat) : TcpPool × Served :=
  match pool.task? id with
  | none => (pool, .waiting)
  | some task =>
    match pool.advance look view task with
    | (pool, .error served) => (pool, served)
    | (pool, .ok slot) => pool.dial network task slot

/-- Turns the permit of a task into the lease of its connection, and ends the task. -/
def lease (pool : TcpPool) (task slot connection : Nat) : TcpPool :=
  ((pool.changeSlot slot (·.lease task connection)).retain slot).leave task slot

/-- Counts a connection that was handed over. -/
def countEstablished (pool : TcpPool) : TcpPool := { pool with established := pool.established + 1 }

/-- Ends the lease of a connection that was dropped. -/
def endLease (pool : TcpPool) (slot connection : Nat) : TcpPool :=
  (pool.changeSlot slot (·.endLease connection)).release slot

/-- Shuts the pool down; gives the connections that are to be invalidated. -/
def shutdown (pool : TcpPool) : TcpPool × List Nat :=
  if pool.closed then (pool, [])
  else
    ({ pool with
        closed := true
        slots := pool.slots.map fun kept => { kept with slot := kept.slot.close.1 } },
      pool.slots.flatMap fun kept => kept.slot.close.2)

/-- What the pool tells about itself. -/
def metrics (pool : TcpPool) : PoolMetrics where
  endpoints := pool.slots.length
  activeConnections := pool.slots.foldr (·.slot.active + ·) 0
  waiting := pool.slots.foldr (·.slot.waiting + ·) 0
  totalEstablished := pool.established
  totalFailed := pool.failed
  closed := pool.closed

end TcpPool

end Courier
