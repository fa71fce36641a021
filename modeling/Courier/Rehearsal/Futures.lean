import Courier.Rehearsal.Peers

/-!
# Futures

What runs until it is finished: exchanges, sends, upgrades and waits.  A turn goes on as far as it
can and says whether the end was reached.
-/

namespace Courier.Rehearsal.Play

open WebSocket (Handshake)

/-! ## Exchanges -/

/-- Gives the sender of an exchange its outcome. -/
def settleExchange (id : Id) (outcome : Except ClientError Http.Reply) : Play Unit := do
  updateExchange id fun exchange => { exchange with outcome := some outcome }
  for future in (← get).futures do
    match future.body with
    | .send send => match send.stage with
      | .exchanging exchange => if exchange == id then wake future.id
      | _ => pure ()
    | _ => pure ()

/-- Lets the sender of an exchange know that a head has arrived. -/
def announceHead (id : Id) : Play Unit := do
  updateExchange id fun exchange => { exchange with announced := true }
  for future in (← get).futures do
    match future.body with
    | .send send => match send.stage with
      | .exchanging exchange => if exchange == id then wake future.id
      | _ => pure ()
    | _ => pure ()

/-- Whether a reading waits for its sender to ask for the body. -/
def isAnnouncement (exchange : Exchange) : Bool :=
  match exchange.reading with
  | .head _ => false
  | .body _ => !exchange.wanted
  | .done (.ok reply) => !exchange.wanted && !isBodiless reply
  | .done (.error (.body _)) => !exchange.wanted
  | .done (.error _) => false
where
  /-- Whether a response was over with its head. -/
  isBodiless (reply : Http.Reply) : Bool :=
    match reply.head.framing? exchange.terms.method with
    | some (.sized 0) => true
    | _ => false

/-- Reads what has arrived, in at most a number of parts. -/
def readResponse : Nat → Exchange → Link → Exchange × Link
  | 0, exchange, link => (exchange, link)
  | fuel + 1, exchange, link =>
    match exchange.reading with
    | .done _ => (exchange, link)
    | _ =>
      if isAnnouncement exchange then (exchange, link)
      else
        match link.receive 65536 with
        | (link, .empty) => (exchange, link)
        | (link, .ended) =>
          ({ exchange with reading := exchange.reading.close exchange.terms }, link)
        | (link, .octets bytes) =>
          readResponse fuel
            { exchange with reading := exchange.reading.feed exchange.terms bytes } link

/-- Tells the sender what there is to tell. -/
def reportExchange (exchange : Exchange) : Play Unit := do
  if isAnnouncement exchange then
    unless exchange.announced do announceHead exchange.id
  else
    match exchange.reading with
    | .done outcome => unless exchange.outcome.isSome do settleExchange exchange.id outcome
    | _ => pure ()

/-- Writes what is left of the request; the sender learns if that is impossible. -/
def writeRequest (exchange : Exchange) (link : Link) : Play Unit := do
  match link.flush exchange.unsent with
  | (link, .all) =>
    setLink exchange.connection link
    updateExchange exchange.id fun _ => { exchange with unsent := [] }
    reportExchange exchange
  | (link, .blocked unsent) =>
    setLink exchange.connection link
    updateExchange exchange.id fun _ => { exchange with unsent }
    reportExchange exchange
  | (link, .broken) =>
    setLink exchange.connection link
    updateExchange exchange.id fun _ => { exchange with unsent := [] }
    match exchange.reading with
    | .head _ => settleExchange exchange.id (.error (.exchange .broken))
    | _ => reportExchange exchange

/-- Takes the request of an exchange up, unless the connection has already spoken or gone. -/
def beginExchange (exchange : Exchange) (link : Link) : Play Unit := do
  let exchange := { exchange with begun := true }
  if link.incoming.isReadable then
    updateExchange exchange.id fun _ => exchange
    settleExchange exchange.id (.error (.exchange .broken))
  else writeRequest { exchange with unsent := exchange.request.bytes } link

/-- Ends an exchange with its connection. -/
def endExchange (exchange : Exchange) : Play Unit := do
  modify fun world =>
    { world with exchanges := world.exchanges.filter (·.id != exchange.id) }
  dropConnection exchange.connection

/-- One turn of an exchange. -/
def pollExchange (id : Id) : Play Unit := do
  let world ← get
  match world.exchange? id with
  | none => pure ()
  | some exchange =>
    if exchange.released then endExchange exchange
    else if exchange.outcome.isSome then pure ()
    else
      match world.link? exchange.connection with
      | none => pure ()
      | some link =>
        if exchange.begun then
          let (exchange, link) := readResponse (link.incoming.held.length + 2) exchange link
          writeRequest exchange link
        else beginExchange exchange link

/-! ## Sends -/

/-- Makes a request of a plan. -/
def nextRequest (client : Client) (next : NextRequest) : Except ClientError Request := do
  let request ← client.request next.method next.uri
  let request := match next.headers with
    | some headers => headers.entries.foldl
        (fun (request : Request) (field : String × Bytes) =>
          request.appendHeader field.1 field.2) request
    | none => request
  return { request with
    body := next.body.getD request.body
    followRedirects := next.follow.getD request.followRedirects }

def isRedirecting (status : Nat) : Bool := 300 ≤ status && status < 400

/-- The decision that leads any redirecting response to a planned request. -/
def leadTo (client : Client) (next : NextRequest) (response : Response) : Decision :=
  if isRedirecting response.status then
    match nextRequest client next with
    | .ok request => .next request
    | .error error => .refuse error
  else .stay

/-- What asking a policy comes to. -/
inductive Verdict where
  | decided (decision : Decision)
  /-- It wants a second look. -/
  | later (next : NextRequest)

def clientNow (id : Id) : Play Client := do
  return ((← get).client? id).elim { config := {}, closed := true } (·.client)

/-- Asks the policy of a client about a response. -/
def consult (client : Id) (response : Response) : Play Verdict := do
  let now ← clientNow client
  let policy := (((← get).client? client).map (·.policy)).getD .standard
  let notice : Play Unit := emit (.policy response.status response.location?)
  match policy with
  | .standard => return .decided (now.decide response)
  | .never =>
    notice
    return .decided .stay
  | .refuse message =>
    notice
    return .decided (.refuse (.invalidArgument (.refused message)))
  | .breakDown breakdown =>
    notice
    return .decided (.breakDown breakdown.payload)
  | .goTo next =>
    notice
    return .later next
  | .closeThenGoTo next =>
    notice
    if isRedirecting response.status then discard (closeClient client)
    return .decided (leadTo (← clientNow client) next response)
  | .closure uri => return .decided (leadTo now { uri } response)

/-- Starts the exchange of a request over a connection. -/
def startExchange (send : SendFuture) (connection : Id) (request : Http.Outgoing) : Play Id := do
  let id ← fresh
  let terms := (← clientNow send.client).readingTerms send.loop.current
  modify fun world =>
    { world with exchanges := world.exchanges ++ [{ id, connection, request, terms }] }
  enqueue (.exchange id)
  return id

/-- Ends a send: everything it holds is let go before its result is noted. -/
def finishSend (id : Id) (here : Option Id) (send : SendFuture)
    (result : Except ClientError Response) : Play Unit := do
  modify fun world => { world with futures := world.futures.filter (·.id != id) }
  collect
  emit (.sent send.name (result.map fun response => (response, send.loop.isFirst))
    ((← get).contextName? ((← get).reach here)))

/-- What a send is at after a part of its turn. -/
inductive SendTurn where
  | goOn (send : SendFuture)
  | waiting (send : SendFuture)
  /-- It is over. -/
  | finished (result : Except ClientError Response)

/-- Goes on with a send after a decision. -/
def afterDecision (send : SendFuture) (response : Response) (decision : Decision) : SendTurn :=
  match send.loop.afterDecision response decision with
  | .finished result => .finished result
  | .exchange loop => .goOn { send with loop, stage := .start }

/-- Goes on with a send after an exchange. -/
def afterExchange (send : SendFuture) (result : Except ClientError Response) : Play SendTurn := do
  match send.loop.afterExchange result with
  | .finished result => return .finished result
  | .consult response =>
    match ← consult send.client response with
    | .decided decision => return afterDecision send response decision
    | .later next => return .waiting { send with stage := .deciding next response }

def sendPart (here : Option Id) (send : SendFuture) : Play SendTurn := do
  match send.stage with
  | .start =>
    match ← acquire send.client .request send.loop.current.target.endpoint
        ((← get).reach here) with
    | .error error => afterExchange send (.error error)
    | .ok handoff => return .goOn { send with stage := .acquiring handoff }
  | .acquiring handoff =>
    match ← takeAnswer handoff with
    | none => return .waiting send
    | some answer =>
      match send.loop.current.afterAnswer answer with
      | .error error =>
        dropAnswer answer
        afterExchange send (.error error)
      | .ok (connection, outgoing) =>
        let exchange ← startExchange send connection outgoing
        return .waiting { send with stage := .exchanging exchange }
  | .exchanging id =>
    match (← get).exchange? id with
    | none => return .waiting send
    | some exchange =>
      match exchange.outcome with
      | some outcome =>
        releaseExchange id
        afterExchange send (outcome.map send.loop.current.responseOf)
      | none =>
        if exchange.announced && !exchange.wanted then
          updateExchange id fun exchange => { exchange with wanted := true }
          enqueue (.exchange id)
        return .waiting send
  | .deciding next response =>
    let client ← clientNow send.client
    return afterDecision send response (leadTo client next response)

/-- Most parts of one turn of a future. -/
def turnFuel : Nat := 100000

/-- One turn of a send, in at most a number of parts; tells whether it is over. -/
def pollSend (id : Id) (here : Option Id) : Nat → SendFuture → Play Bool
  | 0, _ => return false
  | fuel + 1, send => do
    match ← sendPart here send with
    | .goOn send =>
      updateFuture id fun future => { future with body := .send send }
      pollSend id here fuel send
    | .waiting send =>
      updateFuture id fun future => { future with body := .send send }
      return false
    | .finished result =>
      finishSend id here send result
      return true

/-! ## Upgrades -/

def handshakeKey : String := Base64.encode (Bytes.ofString "sixteen octets!!")

/-- What an upgrade is at after a part of its turn. -/
inductive UpgradePart where
  | goOn (upgrade : UpgradeFuture)
  | waiting (upgrade : UpgradeFuture)
  | failed (error : ClientError)
  /-- The WebSocket is open. -/
  | opened (socket : Socket)

/-- Judges a connection that has arrived for an upgrade. -/
def useConnection (here : Option Id) (upgrade : UpgradeFuture) (connection : Connection) :
    Play UpgradePart := do
  match WebSocket.upgradeTurn upgrade.retries connection.endpoint connection.valid with
  | .fail error =>
    dropConnection connection.id
    return .failed error
  | .retry =>
    dropConnection connection.id
    match ← acquire upgrade.client .webSocket upgrade.destination.endpoint
        ((← get).reach here) with
    | .error error => return .failed error
    | .ok handoff =>
      return .goOn { upgrade with
        retries := upgrade.retries + 1
        stage := .acquiring handoff }
  | .handshake =>
    match upgrade.options.handshake upgrade.destination handshakeKey with
    | .error error =>
      dropConnection connection.id
      return .failed error
    | .ok handshake =>
      return .goOn { upgrade with
        stage := .handshaking connection.id handshake (.writing handshake.bytes) }

/-- A part of a turn of an upgrade. -/
def upgradePart (here : Option Id) (upgrade : UpgradeFuture) : Play UpgradePart := do
  match upgrade.stage with
  | .acquiring handoff =>
    match ← takeAnswer handoff with
    | none => return .waiting upgrade
    | some (.error error) => return .failed (.connect error)
    | some (.ok id) =>
      match (← get).connection? id with
      | some connection => useConnection here upgrade connection
      | none => return .failed (.connect .abandoned)
  | .handshaking id handshake progress =>
    match (← get).link? id with
    | none => return .waiting upgrade
    | some link =>
      let (link, attempt) := handshake.advance progress link
      setLink id link
      match attempt with
      | .pending progress =>
        return .waiting { upgrade with stage := .handshaking id handshake progress }
      | .failed error =>
        dropConnection id
        return .failed (.webSocket error)
      | .opened beyond =>
        let client ← clientNow upgrade.client
        return .opened {
          connection := id
          session := {
            role := .client
            maxFrame := client.config.maxWebSocketFrameSize.toNat
            inbox := beyond } }

/-- Notes that a WebSocket is open. -/
def finishOpened (upgrade : UpgradeFuture) (socket : Socket) (on : Option String) :
    Play Unit := do
  let world ← get
  match find? world.sockets upgrade.stream with
  | some old => dropConnection old.connection
  | none => pure ()
  modify fun world => { world with sockets := bindName world.sockets upgrade.stream socket }
  emit (.wsOpen upgrade.stream upgrade.label on)
  match upgrade.endHandler with
  | some label => emit (.wsEnd upgrade.stream label on)
  | none => pure ()

/-- Notes that a WebSocket could not be opened. -/
def finishFailed (upgrade : UpgradeFuture) (error : ClientError) (on : Option String) :
    Play Unit := do
  match upgrade.exceptionHandler with
  | some label => emit (.wsError upgrade.stream label error on)
  | none => pure ()
  release ("handler " ++ upgrade.stream ++ upgrade.label)

/-- One turn of an upgrade, in at most a number of parts; tells whether it is over. -/
def pollUpgrade (id : Id) (here : Option Id) : Nat → UpgradeFuture → Play Bool
  | 0, _ => return false
  | fuel + 1, upgrade => do
    let part ← upgradePart here upgrade
    let on := (← get).contextName? ((← get).reach here)
    let forget : Play Unit :=
      modify fun world => { world with futures := world.futures.filter (·.id != id) }
    match part with
    | .goOn upgrade =>
      updateFuture id fun future => { future with body := .upgrade upgrade }
      pollUpgrade id here fuel upgrade
    | .waiting upgrade =>
      updateFuture id fun future => { future with body := .upgrade upgrade }
      return false
    | .failed error =>
      finishFailed upgrade error on
      forget
      collect
      return true
    | .opened socket =>
      finishOpened upgrade socket on
      forget
      collect
      return true

/-! ## Waits -/

/-- A connection as it is shown. -/
def connectionView (connection : Connection) : ConnectionView :=
  ⟨connection.endpoint, connection.protocol, connection.valid⟩

/-- Settles an acquisition: its connection goes by its name from now on. -/
def finishAcquisition (name : String) (answer : Answer Id) (on : Option String) : Play Unit := do
  match answer with
  | .error error => emit (.acquired name (.error error) on)
  | .ok id =>
    match find? (← get).connectionNames name with
    | some old => dropConnection old
    | none => pure ()
    modify fun world => { world with connectionNames := bindName world.connectionNames name id }
    match (← get).connection? id with
    | some connection => emit (.acquired name (.ok (connectionView connection)) on)
    | none => pure ()

/-- One turn of a future; tells whether it is over. -/
def pollFuture (id : Id) : Play Bool := do
  let world ← get
  match world.future? id with
  | none => return true
  | some future =>
    updateFuture id fun future => { future with fresh := false }
    let here := world.reach future.home
    match future.body with
    | .send send => pollSend id here turnFuel send
    | .upgrade upgrade => pollUpgrade id here turnFuel upgrade
    | .gated log gate =>
      if gate.all (· ∈ world.openGates) then
        modify fun world => { world with futures := world.futures.filter (·.id != id) }
        emit (.finished log (world.contextName? here))
        return true
      else return false
    | .await name handoff =>
      match ← takeAnswer handoff with
      | none => return false
      | some answer =>
        modify fun world => { world with futures := world.futures.filter (·.id != id) }
        finishAcquisition name answer (world.contextName? here)
        return true

end Play

def World.canGoOn (world : World) (future : Future) : Bool :=
  let isSettled (handoff : Id) : Bool :=
    ((world.handoff? handoff).map (·.handoff.isSettled)).getD true
  future.fresh ||
    match future.body with
    | .gated _ gate => gate.all (· ∈ world.openGates)
    | .await _ handoff => isSettled handoff
    | .send send =>
      match send.stage with
      | .start => true
      | .acquiring handoff => isSettled handoff
      | .exchanging id =>
        match world.exchange? id with
        | some exchange => exchange.outcome.isSome || (exchange.announced && !exchange.wanted)
        | none => false
      | .deciding .. => true
    | .upgrade upgrade =>
      match upgrade.stage with
      | .acquiring handoff => isSettled handoff
      | .handshaking id _ progress =>
        match world.link? id with
        | none => false
        | some link =>
          match progress with
          | .writing _ => link.outgoing.isWritable
          | .reading .. => link.incoming.isReadable

/-- Whether an exchange can go on. -/
def World.canExchange (world : World) (exchange : Exchange) : Bool :=
  exchange.released || (exchange.outcome.isNone &&
    match world.link? exchange.connection with
    | none => false
    | some link =>
      !exchange.begun
        || (!exchange.unsent.isEmpty && link.outgoing.isWritable)
        || (exchange.announced && exchange.wanted && isDone exchange)
        || (!Play.isAnnouncement exchange && !isDone exchange && link.incoming.isReadable))
where
  /-- Whether reading has ended. -/
  isDone (exchange : Exchange) : Bool :=
    match exchange.reading with
    | .done _ => true
    | _ => false

end Courier.Rehearsal
