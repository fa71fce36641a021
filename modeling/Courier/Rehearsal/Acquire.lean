import Courier.Pool.Turn
import Courier.Rehearsal.Release

/-!
# Asking for connections

How requests for connections reach pools and how pools answer them.
-/

namespace Courier.Rehearsal.Play

open Http (Version)

/-- Makes a connection and its peer. -/
def makeConnection (script : ConnectionScript) (endpoint : Endpoint) : Play Id := do
  let id ← fresh
  let peer ← fresh
  modify fun world =>
    { world with
      connections := world.connections ++ [{
        id
        endpoint := script.endpoint.getD endpoint
        protocol := script.protocol
        valid := !script.invalid
        name := script.name }]
      links := world.links ++ [(id, Link.create script.capacity)]
      peers := world.peers ++ [{ id := peer, connection := id, script := script.peer }]
      marks := match script.name with
        | some name => bindName world.marks name id
        | none => world.marks }
  enqueue (.peer peer)
  return id

/-- Makes a request for a connection, to be delivered on a context if there is one. -/
def makeHandoff (endpoint : Endpoint) (protocol : Version) (purpose : Purpose)
    (context : Option Id) : Play Id := do
  let id ← fresh
  modify fun world =>
    { world with
      handoffs := world.handoffs ++ [{ id, endpoint, protocol, purpose, context }] }
  return id

/-- The way an answer takes. -/
def routeOf (context : Option Id) : Play Handoff.Route := do
  match context with
  | none => return .direct
  | some context =>
    match (← get).context? context with
    | some entry => return if entry.context.accepts then .context else .refused
    | none => return .refused

/-- Goes on after a request for a connection was answered.  An answer that comes back is given
back. -/
def afterReception (entry : HandoffEntry) :
    Handoff.Reception Id → Play (Option (Answer Id))
  | .returned answer => return some answer
  | .arrived => do
    wakeRequester entry.id
    return none
  | .underWay => do
    match entry.context with
    | some context =>
      updateContext context fun owner =>
        { owner with context := (owner.context.execute (.deliver entry.id)).1 }
      enqueue (.driver context)
    | none => pure ()
    return none
  | .dropped answer => do
    dropAnswer answer
    wakeRequester entry.id
    return none

/-- Answers a request for a connection.  An answer that comes back is given back. -/
def resolve (id : Id) (answer : Answer Id) : Play (Option (Answer Id)) := do
  match (← get).handoff? id with
  | none => return some answer
  | some entry =>
    let (handoff, reception) := entry.handoff.resolve (← routeOf entry.context) answer
    updateHandoff id fun _ => handoff
    afterReception entry reception

/-- A request for a connection as it is shown. -/
def waiterView (entry : HandoffEntry) : Play WaiterView := do
  return {
    endpoint := entry.endpoint
    protocol := entry.protocol
    purpose := entry.purpose
    context := (← get).contextName? entry.context
    cancelled := entry.handoff.isCancelled }

/-- Takes the next plan of a scripted pool. -/
def nextPlan (id : Id) (pool : ScriptedPool) : Play (Option Plan) := do
  setPool id (.scripted { pool with
    plans := pool.plans.tail
    acquisitions := pool.acquisitions + 1
    held := if pool.plans.isEmpty then pool.held + 1 else pool.held })
  return pool.plans.head?

/-- Leaves a request for a connection to the script. -/
def holdWaiter (id : Id) : Play String :=
  modifyGet fun world =>
    let count := world.heldWaiters + 1
    let name := "w" ++ toString count
    (name, { world with
      heldWaiters := count
      waiterNames := bindName world.waiterNames name id })

/-- A scripted pool answers as planned. -/
def followPlan (id : Id) (endpoint : Endpoint) : Plan → Play Unit
  | .drop => dropSender id
  | .fail error => do
    if (← resolve id (.error error)).isSome then emit .returned
  | .connect script => do
    let connection ← makeConnection script endpoint
    match ← resolve id (.ok connection) with
    | none => pure ()
    | some answer =>
      emit .returned
      dropAnswer answer

/-- A scripted pool is asked for a connection. -/
def askScripted (pool : Id) (state : ScriptedPool) (via : Purpose) (entry : HandoffEntry) :
    Play Unit := do
  let plan ← nextPlan pool state
  let view ← waiterView entry
  match plan with
  | some plan =>
    emit (.acquire state.name via view none)
    followPlan entry.id entry.endpoint plan
  | none =>
    let name ← holdWaiter entry.id
    emit (.acquire state.name via view (some name))

/-- A pool that dials is asked for a connection. -/
def askDialing (pool : Id) (state : TcpPool) (entry : HandoffEntry) : Play Unit := do
  let (state, submitted) := state.submit true entry.id entry.endpoint entry.protocol
  setPool pool (.dialing state)
  match submitted with
  | .spawned => enqueue (.serve pool entry.id)
  | .failed error => discard (resolve entry.id (.error error))

/-- Asks a pool for a connection. -/
def ask (pool : Id) (via : Purpose) (handoff : Id) : Play Unit := do
  let world ← get
  match world.pool? pool, world.handoff? handoff with
  | some (.scripted state), some entry => askScripted pool state via entry
  | some (.dialing state), some entry => askDialing pool state entry
  | _, _ => pure ()

/-- A client asks its pool for a connection, to be delivered on the current context. -/
def acquire (client : Id) (purpose : Purpose) (endpoint : Endpoint) (here : Option Id) :
    Play (Except ClientError Id) := do
  match (← get).client? client with
  | none => return .error .clientClosed
  | some entry =>
    match entry.checkOpen with
    | .error error => return .error error
    | .ok () =>
      let handoff ← makeHandoff endpoint entry.client.config.protocolVersion purpose here
      ask entry.pool purpose handoff
      return .ok handoff

/-- Takes the answer to a request for a connection, if there is one. -/
def takeAnswer (id : Id) : Play (Option (Answer Id)) := do
  match (← get).handoff? id with
  | none => return some (.error .abandoned)
  | some entry =>
    match entry.handoff.take with
    | (_, .pending) => return none
    | (handoff, .ready answer) =>
      updateHandoff id fun _ => handoff
      dropReceiver id
      return some answer

/-- One turn of a task of a dialing pool. -/
def pollServe (pool handoff : Id) : Play Unit := do
  let world ← get
  match world.pool? pool, world.handoff? handoff with
  | some (.dialing state), some entry =>
    let route ← routeOf entry.context
    let turn := state.turn world.network .reservation route handoff world.next entry.handoff
    setPool pool (.dialing turn.pool)
    updateHandoff handoff fun _ => turn.handoff
    match turn.result with
    | .waiting => pure ()
    | .silent => wakeRequester handoff
    | .failed _ reception => discard (afterReception entry reception)
    | .opened slot protocol reception =>
      let connection ← makeConnection { protocol } entry.endpoint
      if reception.kept then
        updateConnection connection fun made => { made with lease := some ⟨pool, slot⟩ }
      match ← afterReception entry reception with
      | some answer => dropAnswer answer
      | none => pure ()
    | .late protocol reception =>
      let connection ← makeConnection { protocol } entry.endpoint
      invalidateAll [connection]
      discard (afterReception entry reception)
      dropConnection connection
  | _, _ => pure ()

end Courier.Rehearsal.Play
