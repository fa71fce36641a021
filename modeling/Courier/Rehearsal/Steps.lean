import Courier.Rehearsal.Futures

/-!
# Steps

What each action of a script does, and what it replies.
-/

namespace Courier.Rehearsal.Play

open Http (Headers Version)
open WebSocket (Message)

/-! ## Contexts -/

/-- Submits a closure to a context; tells whether it was accepted. -/
def submitClosure (context : Id) (closure : Closure) : Play Bool := do
  match (← get).context? context with
  | none => return false
  | some entry =>
    let (changed, accepted) := entry.context.execute closure
    updateContext context fun entry => { entry with context := changed }
    if accepted then enqueue (.driver context) else dropClosure closure
    return accepted

/-- Lets a future run on a context, or on its own; tells whether it was accepted. -/
def submitFuture (context : Option Id) (body : FutureBody) : Play (Id × Bool) := do
  let id ← fresh
  modify fun world => { world with futures := world.futures ++ [{ id, home := context, body }] }
  match context with
  | none =>
    enqueue (.future id)
    return (id, true)
  | some context =>
    match (← get).context? context with
    | none =>
      dropFuture id
      return (id, false)
    | some entry =>
      let (changed, accepted) := entry.context.spawn id
      updateContext context fun entry => { entry with context := changed }
      if accepted then enqueue (.driver context) else dropFuture id
      return (id, accepted)

/-- Registers a close hook under a name. -/
def registerHook (context : Id) (name : String) (action : HookAction) : Play Id := do
  let id ← fresh
  updateContext context fun entry => { entry with context := entry.context.addHook id action }
  modify fun world => { world with hookNames := bindName world.hookNames name id }
  return id

/-- Removes a close hook from a context; tells whether it was there. -/
def unregisterHook (context hook : Id) : Play Bool := do
  match (← get).context? context with
  | none => return false
  | some entry =>
    let (changed, removed) := entry.context.removeHook hook
    updateContext context fun entry => { entry with context := changed }
    return removed

/-- Does what a closure says about its own context. -/
def doThen (close : Id → Play Unit) (own : Option Id) (next : Then) : Play ThenReply := do
  match own, next with
  | none, _ => return .nothing
  | _, .nothing => return .nothing
  | some context, .unhook name =>
    match find? (← get).hookNames name with
    | none => return .unhooked none
    | some hook => return .unhooked (some (← unregisterHook context hook))
  | some context, .close =>
    close context
    return .closed (((← get).context? context).elim true (·.context.closed))
  | some context, .execute log next =>
    return .submitted (← submitClosure context (.scripted log next))
  | some context, .hook log =>
    discard (registerHook context log (.scripted log .nothing))
    return .hooked log

/-- Runs a close hook of a context, which is closed by then. -/
def runHook (context : Id) : HookAction → Play Unit
  | .closeClient client => do
    let world ← get
    match world.client? client with
    | some entry => unless entry.gone do discard (closeClient client)
    | none => pure ()
  | .scripted log next => do
    let own := (← get).reach (some context)
    let reply ← doThen (fun _ => pure ()) own next
    emit (.hook log reply)

/-- Closes a context: the first close runs the hooks and tells the driver to stop. -/
def closeContext (context : Id) : Play Unit := do
  match (← get).context? context with
  | none => pure ()
  | some entry =>
    let (changed, hooks) := entry.context.beginClose
    match hooks with
    | none => pure ()
    | some hooks =>
      updateContext context fun entry => { entry with context := changed }
      hooks.forM fun hook => runHook context hook.action
      updateContext context fun entry => { entry with context := entry.context.endClose }
      enqueue (.driver context)

def startContext (name : String) (kind : ContextKind) : Play Reply := do
  let id ← fresh
  modify fun world =>
    { world with
      contexts := world.contexts.map (fun entry =>
          if entry.name == name then { entry with held := false } else entry)
        ++ [{ id, name, context := { kind } }] }
  return .truth true

/-- The context that the script holds under a name. -/
def heldContext? (world : World) (name : String) : Option ContextEntry :=
  world.contexts.find? fun entry => entry.name == name && entry.held

/-- Does something with a context that the script holds. -/
def withContext (name : String) (field : String) (action : ContextEntry → Play Reply) :
    Play Reply := do
  match heldContext? (← get) name with
  | some entry => action entry
  | none => return .badStep field

/-! ## Pools and clients -/

/-- The scripted pool of a name, made on demand. -/
def scriptedPool (name : String) : Play Id := do
  match find? (← get).poolNames name with
  | some id => return id
  | none =>
    let id ← fresh
    modify fun world =>
      { world with
        pools := world.pools ++ [(id, .scripted { name })]
        poolNames := bindName world.poolNames name id }
    return id

/-- Extends a scripted pool. -/
def extendPool (name : String) (plans : List Plan) : Play Reply := do
  let id ← scriptedPool name
  match (← get).pool? id with
  | some (.scripted pool) =>
    let plans := pool.plans ++ plans
    setPool id (.scripted { pool with plans })
    return .count plans.length
  | _ => return .badStep "as"

/-- Makes a pool that dials. -/
def makeDialingPool (config : Config) (connector : Option Connector) : Play Id := do
  let id ← fresh
  let pool : TcpPool := { limits := config.pool, tls := .ofConfig config, connector }
  modify fun world => { world with pools := world.pools ++ [(id, .dialing pool)] }
  return id

/-- Makes a client on a pool and on the current context, if there is one. -/
def makeClient (name : String) (pool : Id) (config : Config) (here : Option Id) : Play Reply := do
  let world ← get
  let kind := (here.bind world.context?).map (·.context.kind)
  match Client.create config kind with
  | .error error => return .failed error
  | .ok client =>
    let id ← fresh
    let hook ← fresh
    match here with
    | some context =>
      updateContext context fun entry =>
        { entry with context := entry.context.addHook hook (.closeClient id) }
    | none => pure ()
    modify fun world =>
      { world with
        clients := world.clients ++ [{ id, client, pool, context := here, hook }]
        clientNames := bindName world.clientNames name id }
    return .client (TlsOptions.ofConfig config).alpnProtocols

def metricsOf (id : Id) : Play PoolMetrics := do
  let world ← get
  match world.pool? id with
  | some (.dialing pool) => return pool.metrics
  | some (.scripted pool) => return { waiting := pool.held, closed := pool.shutdowns > 0 }
  | none => return {}

/-- Does something with a client. -/
def withClient (name : String) (action : ClientEntry → Play Reply) : Play Reply := do
  let world ← get
  match (find? world.clientNames name).bind world.client? with
  | some entry => action entry
  | none => return .badStep "client"

/-- Sets the redirect policy of a client. -/
def setPolicy (client : Id) (policy : PolicyScript) : Play Reply := do
  updateClient client fun entry => { entry with policy }
  return .changed true

/-! ## Requests -/

def change (request : Request) (changes : Changes) : Request :=
  let request := { request with
    followRedirects := changes.follow.getD request.followRedirects
    body := changes.body.getD request.body }
  let request := if changes.touchHeaders then request.touchHeaders else request
  let request := changes.append.foldl
    (fun (request : Request) (field : String × Bytes) => request.appendHeader field.1 field.2)
    request
  changes.insert.foldl
    (fun (request : Request) (field : String × Bytes) => request.insertHeader field.1 field.2)
    request

/-- Does something with a request. -/
def withRequest (name : String) (action : Id → Request → Play Reply) : Play Reply := do
  match find? (← get).requests name with
  | some (client, request) => action client request
  | none => return .badStep "req"

def forgetRequest (name : String) : Play Unit :=
  modify fun world => { world with requests := without world.requests name }

/-- Sends a request on the current context, or on its own. -/
def sendRequest (name : String) (here : Option Id) (client : Id) (request : Request) :
    Play Reply := do
  forgetRequest name
  let loop := SendLoop.start (← clientNow client) request
  let (_, started) ← submitFuture here (.send { name, client, loop })
  return .truth started

/-! ## Acquisitions -/

/-- Notes an acquisition under a name. -/
def nameAcquisition (name : String) (handoff : Id) : Play Unit := do
  match find? (← get).acquisitionNames name with
  | some old => dropReceiver old
  | none => pure ()
  modify fun world =>
    { world with acquisitionNames := bindName world.acquisitionNames name handoff }

/-- Whether the requester has given up a request for a connection. -/
def isCancelled (handoff : Id) : Play Bool := do
  return ((← get).handoff? handoff).elim true (·.handoff.cancelled)

/-- Does something with a request for a connection that the script answers. -/
def withWaiter (name : String) (action : HandoffEntry → Play Reply) : Play Reply := do
  let world ← get
  match (find? world.waiterNames name).bind world.handoff? with
  | some entry => action entry
  | none => return .badStep "waiter"

/-- Forgets a request for a connection that the script answers. -/
def forgetWaiter (name : String) : Play Unit :=
  modify fun world => { world with waiterNames := without world.waiterNames name }

/-- Does something with an acquisition. -/
def withAcquisition (name : String) (action : Id → Play Reply) : Play Reply := do
  match find? (← get).acquisitionNames name with
  | some handoff => action handoff
  | none => return .badStep "acq"

def forgetAcquisition (name : String) : Play Unit :=
  modify fun world => { world with acquisitionNames := without world.acquisitionNames name }

/-- Makes a request for a connection by hand. -/
def makeWaiter (name : String) (endpoint : Endpoint) (protocol : Version) (purpose : Purpose)
    (context : Option ContextEntry) (pool : Option Id) : Play Reply := do
  let handoff ← makeHandoff endpoint protocol purpose (context.map (·.id))
  nameAcquisition name handoff
  match (← get).handoff? handoff with
  | none => return .badStep "as"
  | some entry =>
    let view ← waiterView entry
    match pool with
    | some pool => ask pool purpose handoff
    | none =>
      match find? (← get).waiterNames name with
      | some old => dropSender old
      | none => pure ()
      modify fun world => { world with waiterNames := bindName world.waiterNames name handoff }
    return .waiter view

/-- Answers a request for a connection by hand. -/
def answerWaiter (name : String) (handoff : Id) (answer : Answer Id) : Play Reply := do
  forgetWaiter name
  match ← resolve handoff answer with
  | none => return .ok
  | some (.error error) => return .returnedError error
  | some (.ok id) =>
    match (← get).connection? id with
    | none => return .ok
    | some connection =>
      dropConnection id
      return .returnedConnection (connectionView connection)

/-! ## Connections -/

/-- Does something with a connection that the script holds. -/
def withConnection (name : String) (action : Connection → Link → Play Reply) : Play Reply := do
  let world ← get
  match find? world.connectionNames name with
  | none => return .badStep "conn"
  | some id =>
    match world.connection? id, world.link? id with
    | some connection, some link => action connection link
    | _, _ => return .badStep "conn"

/-- One attempt to write to a connection. -/
def writeConnection (connection : Connection) (link : Link) (data : Bytes) : Play Reply := do
  match link.outgoing.write data with
  | (_, .broken) => return .ioError "BrokenPipe"
  | (_, .full) => return .pending
  | (outgoing, .taken count) =>
    setLink connection.id { link with outgoing }
    return .wrote count

/-- One attempt to read from a connection. -/
def readConnection (connection : Connection) (link : Link) (limit : Nat) : Play Reply := do
  match link.receive limit with
  | (_, .empty) => return .pending
  | (_, .ended) => return .octets []
  | (link, .octets bytes) =>
    setLink connection.id link
    return .octets bytes

/-- Invalidates a connection by name. -/
def invalidate (name : String) : Play Reply := do
  let world ← get
  match (find? world.marks name) <|> (find? world.connectionNames name) with
  | none => return .badStep "conn"
  | some id =>
    invalidateAll [id]
    return .ok

/-! ## WebSockets -/

/-- Does something with a WebSocket to be opened. -/
def withStream (name : String) (action : StreamEntry → Play Reply) : Play Reply := do
  match find? (← get).streams name with
  | some entry => action entry
  | none => return .badStep "stream"

/-- Changes a WebSocket to be opened. -/
def setStream (name : String) (entry : StreamEntry) : Play Unit :=
  modify fun world =>
    { world with
      streams := world.streams.map fun named => if named.1 == name then (name, entry) else named }

/-- Starts an upgrade on the current context, or on its own. -/
def startUpgrade (name label : String) (here : Option Id) (entry : StreamEntry)
    (destination : WebSocket.Destination) : Play (Except ClientError Unit) := do
  match ← acquire entry.client .webSocket destination.endpoint here with
  | .error error =>
    release ("handler " ++ name ++ label)
    return .error error
  | .ok handoff =>
    let (stream, exceptionHandler, endHandler) := entry.stream.takeHandlers
    setStream name { entry with stream }
    discard (submitFuture here (.upgrade {
      stream := name
      label
      exceptionHandler
      endHandler
      client := entry.client
      options := stream.options
      destination
      stage := .acquiring handoff }))
    return .ok ()

/-- Sets a success handler. -/
def setHandler (name label : String) (here : Option Id) (entry : StreamEntry) : Play Reply := do
  let (stream, subscription) := entry.stream.subscribe (← clientNow entry.client)
  let entry := { entry with stream }
  setStream name entry
  match subscription with
  | .ignored =>
    release ("handler " ++ name ++ label)
    return .handler (.ok ()) true
  | .failed error =>
    release ("handler " ++ name ++ label)
    return .handler (.error error) stream.subscribed
  | .started destination =>
    return .handler (← startUpgrade name label here entry destination) stream.subscribed

/-- Does something with an open WebSocket. -/
def withSocket (name : String) (action : Socket → Link → Play Reply) : Play Reply := do
  let world ← get
  match find? world.sockets name with
  | none => return .badStep "stream"
  | some socket =>
    match world.link? socket.connection with
    | some link => action socket link
    | none => return .badStep "stream"

/-- Changes an open WebSocket. -/
def setSocket (name : String) (socket : Socket) (link : Link) : Play Unit := do
  modify fun world =>
    { world with
      sockets := world.sockets.map fun named =>
        if named.1 == name then (name, socket) else named }
  setLink socket.connection link

/-- Sends a message over an open WebSocket. -/
def sendMessage (name : String) (message : Message) (socket : Socket) (link : Link) :
    Play Reply := do
  let (session, link, outcome) := socket.session.send link message
  setSocket name { socket with session } link
  match outcome with
  | .ok => return .ok
  | .pending => return .pending
  | .failed error => return .webSocketFailed error

/-- Receives a message from an open WebSocket. -/
def receiveMessage (name : String) (socket : Socket) (link : Link) : Play Reply := do
  let (session, link, outcome) := socket.session.read link
  setSocket name { socket with session } link
  match outcome with
  | .message message => return .message message
  | .pending => return .pending
  | .ended => return .ended
  | .failed error => return .webSocketFailed error

/-- Tells whether a name stands for something, and forgets it if it does. -/
def dropNamed {α : Type} (names : World → List (String × α)) (name : String)
    (drop : α → Play Unit) : Play Reply := do
  match find? (names (← get)) name with
  | none => return .truth false
  | some value =>
    drop value
    return .truth true

/-! ## All actions -/

/-- Does what an action on contexts says. -/
def doContextAction (here : Option Id) : Action → Play (Option Reply)
  | .context name kind => some <$> startContext name kind
  | .contextInfo name => some <$> withContext name "ctx" fun entry =>
      return .context entry.context.closed entry.context.kind
  | .contextClose name => some <$> withContext name "ctx" fun entry => do
      closeContext entry.id
      return .closed (((← get).context? entry.id).elim true (·.context.closed))
  | .contextDrop name => some <$> do
      match heldContext? (← get) name with
      | none => return .truth false
      | some entry =>
        updateContext entry.id fun entry => { entry with held := false }
        return .truth true
  | .current => some <$> do return .contextName ((← get).contextName? here)
  | .execute name log next => some <$> withContext name "ctx" fun entry =>
      return .truth (← submitClosure entry.id (.scripted log next))
  | .spawn name log gate => some <$> withContext name "ctx" fun entry => do
      let key ← fresh
      let (_, accepted) ← submitFuture (some entry.id) (.gated log (gate.map fun _ => key))
      match gate with
      | some gate => modify fun world =>
          { world with
            openGates := (find? world.gateNames gate).toList ++ world.openGates
            gateNames := bindName world.gateNames gate key }
      | none => pure ()
      return .truth accepted
  | .openGate gate => some <$> do
      match find? (← get).gateNames gate with
      | none => return .nothing
      | some key =>
        let behind := (← get).futures.filter fun future =>
          match future.body with
          | .gated _ (some waited) => waited == key
          | _ => false
        modify fun world =>
          { world with
            openGates := key :: world.openGates
            gateNames := without world.gateNames gate }
        behind.forM fun future => wake future.id
        return .truth (!behind.isEmpty)
  | .hook context name log next => some <$> withContext context "ctx" fun entry => do
      discard (registerHook entry.id name (.scripted log next))
      return .ok
  | .unhook context name => some <$> withContext context "ctx" fun entry => do
      match find? (← get).hookNames name with
      | none => return .badStep "hook"
      | some hook => return .truth (← unregisterHook entry.id hook)
  | _ => return none

/-- Does what an action on pools and clients says. -/
def doClientAction (here : Option Id) : Action → Play (Option Reply)
  | .pool name plans => some <$> extendPool name plans
  | .tcpPool name config connector => some <$> do
      let id ← makeDialingPool config connector
      modify fun world => { world with poolNames := bindName world.poolNames name id }
      return .ok
  | .client name pool config connector => some <$> do
      let pool ← match pool with
        | some pool => scriptedPool pool
        | none => makeDialingPool config connector
      makeClient name pool config here
  | .clone client name => some <$> withClient client fun entry => do
      modify fun world => { world with clientNames := bindName world.clientNames name entry.id }
      return .ok
  | .close client => some <$> withClient client fun entry => do
      match ← closeClient entry.id with
      | .ok () => return .ok
      | .error error => return .failed error
  | .dropClient client => some <$> dropNamed (·.clientNames) client fun _ =>
      modify fun world => { world with clientNames := without world.clientNames client }
  | .clientInfo client => some <$> withClient client fun entry =>
      let config := entry.client.config
      return .clientInfo entry.client.closed config.defaultHost config.defaultPort config.secure
  | .clientMetrics client => some <$> withClient client fun entry => do
      return .metrics (← metricsOf entry.pool)
  | .poolMetrics pool => some <$> do
      match find? (← get).poolNames pool with
      | none => return .badStep "pool"
      | some id => return .metrics (← metricsOf id)
  | .shutdownPool pool => some <$> do
      match find? (← get).poolNames pool with
      | none => return .badStep "pool"
      | some id =>
        shutdownPool id
        return .ok
  | .policy client policy => some <$> withClient client fun entry => setPolicy entry.id policy
  | _ => return none

/-- Does what an action on requests and acquisitions says. -/
def doRequestAction (here : Option Id) : Action → Play (Option Reply)
  | .dispatch name client method call => some <$> withClient client fun entry => do
      match call.run entry.client method with
      | .error error => return .failed error
      | .ok request =>
        modify fun world =>
          { world with requests := bindName world.requests name (entry.id, request) }
        return .request request
  | .set name changes => some <$> withRequest name fun client request => do
      let request := change request changes
      modify fun world =>
        { world with requests := bindName world.requests name (client, request) }
      return .request request
  | .dropRequest name => some <$> dropNamed (·.requests) name fun _ => forgetRequest name
  | .send name => some <$> withRequest name (sendRequest name here)
  | .acquire purpose name client host port secure => some <$> withClient client fun entry => do
      match ← acquire entry.id purpose ⟨host, port, secure⟩ here with
      | .error error => return .failed error
      | .ok handoff =>
        nameAcquisition name handoff
        return .acquisition ⟨host, port, secure⟩ (← isCancelled handoff)
  | .waiter name endpoint protocol purpose context pool => some <$> do
      let world ← get
      let found := context.map (heldContext? world)
      let asked := pool.map (find? world.poolNames)
      match found, asked with
      | some none, _ => return .badStep "ctx"
      | _, some none => return .badStep "pool"
      | _, _ => makeWaiter name endpoint protocol purpose found.join asked.join
  | .waiterInfo name => some <$> withWaiter name fun entry => do
      return .waiterInfo (← waiterView entry) (!entry.handoff.listening)
  | .establish name script => some <$> withWaiter name fun entry => do
      let connection ← makeConnection script entry.endpoint
      answerWaiter name entry.id (.ok connection)
  | .fail name error => some <$> withWaiter name fun entry =>
      answerWaiter name entry.id (.error error)
  | .dropWaiter name => some <$> dropNamed (·.waiterNames) name fun handoff => do
      forgetWaiter name
      dropSender handoff
  | .cancel name => some <$> withAcquisition name fun handoff => do
      updateHandoff handoff (·.cancel)
      return .cancelled (← isCancelled handoff)
  | .dropAcquisition name => some <$> dropNamed (·.acquisitionNames) name fun handoff => do
      forgetAcquisition name
      dropReceiver handoff
  | .await name context => some <$> withAcquisition name fun handoff =>
      withContext context "ctx" fun entry => do
        forgetAcquisition name
        let (_, accepted) ← submitFuture (some entry.id) (.await name handoff)
        return .truth accepted
  | _ => return none

/-- Does what an action on connections and WebSockets says. -/
def doConnectionAction (here : Option Id) : Action → Play Reply
  | .connInfo name => withConnection name fun connection _ =>
      return .connection (connectionView connection)
  | .dropConn name => dropNamed (·.connectionNames) name fun id => do
      modify fun world => { world with connectionNames := without world.connectionNames name }
      dropConnection id
  | .invalidate name => invalidate name
  | .connWrite name data => withConnection name fun connection link =>
      writeConnection connection link data
  | .connRead name limit => withConnection name fun connection link =>
      readConnection connection link limit
  | .connShutdown name => withConnection name fun connection link => do
      setLink connection.id { link with outgoing := link.outgoing.close }
      return .ok
  | .webSocket name client options => withClient client fun entry => do
      modify fun world =>
        { world with
          streams := bindName world.streams name { client := entry.id, stream := { options } } }
      return .subscribed false
  | .wsHandler name label => withStream name (setHandler name label here)
  | .wsException name label => withStream name fun entry => do
      setStream name
        { entry with stream := { entry.stream with exceptionHandler := some label } }
      return .ok
  | .wsEnd name label => withStream name fun entry => do
      setStream name { entry with stream := { entry.stream with endHandler := some label } }
      return .ok
  | .wsPause name => withStream name fun entry => return .subscribed entry.stream.subscribed
  | .wsDropStream name => dropNamed (·.streams) name fun _ =>
      modify fun world => { world with streams := without world.streams name }
  | .wsSend name message => withSocket name (sendMessage name message)
  | .wsReceive name => withSocket name (receiveMessage name)
  | .wsDrop name => dropNamed (·.sockets) name fun socket => do
      modify fun world => { world with sockets := without world.sockets name }
      dropConnection socket.connection
  | .unreadable field => return .badStep field
  | _ => return .nothing

/-- Does what an action says, on the current context if there is one. -/
def doAction (here : Option Id) (action : Action) : Play Reply := do
  let reply ← match ← doContextAction here action with
    | some reply => pure reply
    | none =>
      match ← doClientAction here action with
      | some reply => pure reply
      | none =>
        match ← doRequestAction here action with
        | some reply => pure reply
        | none => doConnectionAction here action
  collect
  return reply

end Courier.Rehearsal.Play
