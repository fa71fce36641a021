import Courier.Rehearsal.World

/-!
# Letting go

What happens when something is dropped: connections are closed and their leases end, answers on
their way are lost, and a client to which nothing refers any more shuts its pool down.
-/

namespace Courier.Rehearsal.Play

/-- Drops a connection. -/
def dropConnection (id : Id) : Play Unit := do
  let world ← get
  match world.connection? id with
  | none => pure ()
  | some connection =>
    set { world with connections := world.connections.filter (·.id != id) }
    match world.link? id with
    | some link => setLink id link.close
    | none => pure ()
    match connection.name with
    | some name => release name
    | none => pure ()
    match connection.lease with
    | none => pure ()
    | some lease =>
      match world.pool? lease.pool with
      | some (.dialing state) => setPool lease.pool (.dialing (state.endLease lease.slot id))
      | _ => pure ()

/-- Drops an answer; one that is a connection is dropped. -/
def dropAnswer (answer : Answer Id) : Play Unit :=
  match answer with
  | .ok connection => dropConnection connection
  | .error _ => pure ()

/-- Drops an answer, if there is one. -/
def dropAnswer? (answer : Option (Answer Id)) : Play Unit :=
  match answer with
  | some answer => dropAnswer answer
  | none => pure ()

/-- Whether a future waits for the answer to a request for a connection. -/
def awaits (handoff : Id) (future : Future) : Bool :=
  match future.body with
  | .send send => match send.stage with
    | .acquiring id => id == handoff
    | _ => false
  | .upgrade upgrade => match upgrade.stage with
    | .acquiring id => id == handoff
    | _ => false
  | .await _ id => id == handoff
  | .gated .. => false

/-- Wakes whatever waits for the answer to a request for a connection. -/
def wakeRequester (handoff : Id) : Play Unit := do
  for future in (← get).futures do
    if awaits handoff future then wake future.id

/-- Drops the right to answer a request for a connection. -/
def dropSender (id : Id) : Play Unit := do
  match (← get).handoff? id with
  | none => pure ()
  | some entry =>
    let (handoff, lost) := entry.handoff.dropSender
    updateHandoff id fun _ => handoff
    dropAnswer? lost
    wakeRequester id

/-- Drops the requester's side of a request for a connection. -/
def dropReceiver (id : Id) : Play Unit := do
  match (← get).handoff? id with
  | none => pure ()
  | some entry =>
    let (handoff, lost) := entry.handoff.dropReceiver
    updateHandoff id fun _ => handoff
    dropAnswer? lost

/-- Lets an exchange go. -/
def releaseExchange (id : Id) : Play Unit := do
  updateExchange id fun exchange => { exchange with released := true }
  enqueue (.exchange id)

/-- Drops a future with everything it holds. -/
def dropFuture (id : Id) : Play Unit := do
  let world ← get
  match world.future? id with
  | none => pure ()
  | some future =>
    set { world with futures := world.futures.filter (·.id != id) }
    match future.body with
    | .gated log _ => release log
    | .await _ handoff => dropReceiver handoff
    | .send send =>
      match send.stage with
      | .acquiring handoff => dropReceiver handoff
      | .exchanging exchange => releaseExchange exchange
      | _ => pure ()
    | .upgrade upgrade =>
      release ("handler " ++ upgrade.stream ++ upgrade.label)
      match upgrade.stage with
      | .acquiring handoff => dropReceiver handoff
      | .handshaking connection _ _ => dropConnection connection

/-- Drops a closure that will not run. -/
def dropClosure : Closure → Play Unit
  | .scripted log _ => release log
  | .step _ => pure ()
  | .deliver handoff => dropSender handoff

/-- Invalidates connections. -/
def invalidateAll (ids : List Id) : Play Unit :=
  ids.forM fun id => updateConnection id fun connection => { connection with valid := false }

/-- Shuts a pool down. -/
def shutdownPool (id : Id) : Play Unit := do
  match (← get).pool? id with
  | none => pure ()
  | some (.scripted pool) =>
    setPool id (.scripted { pool with shutdowns := pool.shutdowns + 1 })
    emit (.shutdown pool.name)
  | some (.dialing pool) =>
    let (pool, live) := pool.shutdown
    setPool id (.dialing pool)
    invalidateAll live

/-- Removes the close hook of a client from its context. -/
def removeClientHook (client : ClientEntry) : Play Unit :=
  match client.context with
  | none => pure ()
  | some context =>
    updateContext context fun entry =>
      { entry with context := (entry.context.removeHook client.hook).1 }

/-- Parts a client from its context and its pool. -/
def partClient (client : ClientEntry) : Play Unit := do
  removeClientHook client
  shutdownPool client.pool

/-- Closes a client; only the first close succeeds. -/
def closeClient (id : Id) : Play (Except ClientError Unit) := do
  match (← get).client? id with
  | none => return .error .clientClosed
  | some entry =>
    let (life, result) := entry.close
    updateClient id fun entry => { entry with toClientLife := life }
    match result with
    | .error error => return .error error
    | .ok () =>
      partClient entry
      return .ok ()

/-- Lets a client go to which nothing refers any more. -/
def reapClient (entry : ClientEntry) : Play Unit := do
  let (life, unclosed) := entry.depart
  updateClient entry.id fun entry => { entry with toClientLife := life }
  if unclosed then partClient entry

/-- Lets go of everything to which nothing refers any more. -/
def collect : Play Unit := do
  for entry in (← get).clients do
    let world ← get
    unless entry.gone || world.isReferenced entry.id do
      match world.client? entry.id with
      | some entry => reapClient entry
      | none => pure ()

end Courier.Rehearsal.Play
