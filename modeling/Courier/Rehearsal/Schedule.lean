import Courier.Rehearsal.Steps

/-!
# Taking turns

Processes take turns in the order in which they were woken.  The driver of a context goes through
its context's turns; every other process goes on as far as it can.
-/

namespace Courier.Rehearsal

namespace World

/-- Whether the driver of a context has something to do: it was told to stop, jobs or futures wait,
or nobody can reach the context and nothing is left of it. -/
def canDrive (world : World) (entry : ContextEntry) : Bool :=
  !entry.context.stopped &&
    (entry.context.stopping || !entry.context.jobs.isEmpty || !entry.woken.isEmpty
      || (entry.running.isEmpty && !world.isReachable entry.id))

/-- Whether a task of a dialing pool can go on. -/
def canServe (world : World) (pool : TcpPool) (task : ServeTask) : Bool :=
  match task.stage with
  | .spawned => true
  | .queued slotId =>
    match pool.slot? slotId with
    | none => true
    | some kept =>
      kept.slot.closed || kept.slot.queue.any (fun reservation =>
          reservation.id == task.id && reservation.assigned)
        || ((world.handoff? task.id).map (!·.handoff.listening)).getD true
  | .dialing _ => world.network task.endpoint != .pending

/-- Futures of a context that can go on and are not known to. -/
def unnoticed (world : World) (entry : ContextEntry) : List Id :=
  entry.running.filter fun id =>
    id ∉ entry.woken && ((world.future? id).map world.canGoOn).getD false

/-- Whatever can go on, oldest first. -/
def ready (world : World) : List Process :=
  let drivers := (world.contexts.filter world.canDrive).map fun entry =>
    (entry.id, Process.driver entry.id)
  let futures := (world.futures.filter fun future =>
      future.home.isNone && world.canGoOn future).map fun future =>
    (future.id, Process.future future.id)
  let exchanges := (world.exchanges.filter world.canExchange).map fun exchange =>
    (exchange.id, Process.exchange exchange.id)
  let peers := (world.peers.filter fun peer =>
      ((world.link? peer.connection).map fun link => peer.isReady link.flip).getD false).map
    fun peer => (peer.id, Process.peer peer.id)
  let tasks := world.pools.flatMap fun (id, state) =>
    match state with
    | .scripted _ => []
    | .dialing pool => (pool.tasks.filter (world.canServe pool)).map fun task =>
        (task.id, Process.serve id task.id)
  let all := drivers ++ futures ++ exchanges ++ peers ++ tasks
  (all.mergeSort fun left right => left.1 ≤ right.1).map (·.2)

end World

namespace Play

/-- Gives turns to whatever can go on. -/
def noticeReady : Play Unit := do
  for entry in (← get).contexts do
    let more := (← get).unnoticed entry
    unless more.isEmpty do
      updateContext entry.id fun entry => { entry with woken := entry.woken ++ more }
  (← get).ready.forM enqueue

/-- Runs a closure on a context. -/
def runClosure (context : Id) : Closure → Play Unit
  | .scripted log next => do
    let own := (← get).reach (some context)
    let reply ← doThen closeContext own next
    emit (.ran log ((← get).contextName? ((← get).reach own)) reply)
    collect
  | .step action => do
    let own := (← get).reach (some context)
    let reply ← doAction own action
    emit (.step ((← get).contextName? ((← get).reach (some context))) reply)
    collect
  | .deliver handoff => do
    match (← get).handoff? handoff with
    | none => pure ()
    | some entry =>
      let (changed, lost) := entry.handoff.publish
      updateHandoff handoff fun _ => changed
      dropAnswer? lost
      wakeRequester handoff

/-- Stops the driver of a context: its futures are dropped, the latest first, and then its jobs. -/
def stopDriver (context : Id) : Play Unit := do
  match (← get).context? context with
  | none => pure ()
  | some entry =>
    let (halted, jobs) := entry.context.halt
    updateContext context fun entry =>
      { entry with context := halted, running := [], woken := [] }
    for future in entry.running.reverse do
      dropFuture future
      collect
    for job in jobs do
      match job with
      | .inl closure => dropClosure closure
      | .inr future => dropFuture future
      collect

/-- Lets the futures of a context go on, each at most once, until one is over; tells whether one
is. -/
def pollWoken (context : Id) : List Id → Play Bool
  | [] => return false
  | future :: rest => do
    updateContext context fun entry =>
      { entry with woken := entry.woken.filter (· != future) }
    if ← pollFuture future then
      updateContext context fun entry =>
        { entry with running := entry.running.filter (· != future) }
      return true
    else pollWoken context rest

/-- The turns of the driver of a context, at most a number of them. -/
def pollDriver (context : Id) : Nat → Play Unit
  | 0 => pure ()
  | fuel + 1 => do
    match (← get).context? context with
    | none => pure ()
    | some entry =>
      if entry.context.stopped then return
      let (changed, turn) := entry.context.turn
      updateContext context fun entry => { entry with context := changed }
      match turn with
      | .stop => stopDriver context
      | .run closure =>
        runClosure context closure
        pollDriver context fuel
      | .adopt future =>
        updateContext context fun entry =>
          { entry with running := entry.running ++ [future], woken := entry.woken ++ [future] }
        pollDriver context fuel
      | .futures =>
        if ← pollWoken context entry.woken then pollDriver context fuel
        else
          match (← get).context? context with
          | none => pure ()
          | some entry =>
            if entry.running.isEmpty && !(← get).isReachable context then stopDriver context

def takeTurn : Process → Play Unit
  | .driver context => pollDriver context turnFuel
  | .future future => discard (pollFuture future)
  | .exchange exchange => pollExchange exchange
  | .peer peer => pollPeer peer
  | .serve pool handoff => pollServe pool handoff

/-- Lets processes take turns until none is left, at most a number of turns. -/
def runTurns : Nat → Play Unit
  | 0 => pure ()
  | fuel + 1 => do
    let world ← get
    match world.queue with
    | [] => pure ()
    | process :: queue =>
      set { world with queue }
      takeTurn process
      collect
      noticeReady
      runTurns fuel

/-- Lets everything run. -/
def runAll : Play Unit := do
  noticeReady
  runTurns turnFuel

/-- Looks at acquisitions that are not settled; tells whether one is now. -/
def lookAtAcquisitions : List (String × Id) → Play Bool
  | [] => return false
  | (name, handoff) :: rest => do
    match ← takeAnswer handoff with
    | none => lookAtAcquisitions rest
    | some answer =>
      modify fun world =>
        { world with acquisitionNames := without world.acquisitionNames name }
      finishAcquisition name answer none
      discard (lookAtAcquisitions rest)
      return true

/-- Lets everything run until nothing can move and no acquisition can be settled. -/
def settle : Nat → Play Unit
  | 0 => pure ()
  | fuel + 1 => do
    runAll
    if ← lookAtAcquisitions (← get).acquisitionNames then
      collect
      settle fuel

/-- Plays one step. -/
def playStep (step : Step) : Play StepReport := do
  modify fun world => { world with events := [], released := [] }
  let reply ← match step.on with
    | none => doAction none step.action
    | some name => withContext name "on" fun entry =>
        return .submitted (← submitClosure entry.id (.step step.action))
  -- What a step wakes takes its place in the queue at once, also if it has to wait for its turn.
  if step.settle then settle turnFuel else noticeReady
  let world ← get
  return {
    reply
    events := world.events.reverse
    released := world.released.mergeSort fun left right => !decide (right < left) }

/-- Plays a script. -/
def playSteps (steps : List Step) : Play (List StepReport) := steps.mapM playStep

end Play

/-- What the scripted pools of a world have counted. -/
def World.poolCounts (world : World) : List (String × PoolCount) :=
  world.pools.filterMap fun (_, state) =>
    match state with
    | .scripted pool => some (pool.name, ⟨pool.acquisitions, pool.shutdowns, pool.plans.length⟩)
    | .dialing _ => none

/-- Plays a script in a new world with a network. -/
def play (network : Network) (steps : List Step) : Report :=
  let (reports, world) := (Play.playSteps steps).run { network }
  { steps := reports, pools := world.poolCounts }

end Courier.Rehearsal
