import Courier.Context
import Courier.Send
import Courier.WebSocket.Upgrade

/-!
# Clients and what refers to them

Everybody acts on a client through something that refers to it: a handle, a request, a WebSocket
to be opened, or a send or an upgrade under way.  A client to which nothing refers any more is let
go.  Calls come in any order and on any context, also from a close hook while the close of a
context runs the others.
-/

namespace Courier

open Http (Headers)
open WebSocket (UpgradeStream)

namespace Clientele

/-- What runs when a context closes. -/
inductive Hook where
  | ofClient (client : Nat)
  | other
deriving DecidableEq, Repr

/-- The client that a hook closes. -/
def Hook.client? : Hook → Option Nat
  | ofClient client => some client
  | other => none

/-- A context, and how far its close has come. -/
structure Home where
  id : Nat
  context : Context Unit Unit Hook
  /-- Hooks that its close has still to run. -/
  unrun : List (CloseHook Hook) := []

structure Member extends ClientLife where
  id : Nat
deriving DecidableEq, Repr

/-- Whether a client has been parted from its context and its pool. -/
def Member.parted (member : Member) : Bool := member.client.closed || member.gone

def Member.closeHook (member : Member) : CloseHook Hook := ⟨member.hook, .ofClient member.id⟩

/-- A context with the close hook of a client, if the client was made on it. -/
def Home.joinedBy (home : Home) (member : Member) : Home :=
  if member.context = some home.id then
    { home with context := home.context.addHook member.hook (.ofClient member.id) }
  else home

/-- A context without the close hook of a client. -/
def Home.without (home : Home) (member : Member) : Home :=
  if member.context = some home.id then
    { home with context := (home.context.removeHook member.hook).1 }
  else home

/-- What a send is at. -/
inductive SendStage where
  /-- An exchange with a request of a client is about to begin. -/
  | ready (client : Nat)
  /-- An exchange with a request of a client is under way. -/
  | exchanging (client : Nat)
  | deciding (response : Response)

/-- What refers to a client. -/
inductive Item where
  | handle
  | request (request : Request)
  | stream (stream : UpgradeStream Unit)
  /-- An upgrade under way, after a number of retries. -/
  | upgrade (retries : Nat)
  | send (loop : SendLoop) (stage : SendStage)

/-- The clients to which an item refers by itself: a send refers to that of its current request. -/
def Item.clients : Item → List Nat
  | .send _ (.ready client) | .send _ (.exchanging client) => [client]
  | _ => []

/-- Something that refers to a client. -/
structure Holder where
  id : Nat
  client : Nat
  item : Item

/-- The clients to which something refers. -/
def Holder.kept (holder : Holder) : List Nat := holder.client :: holder.item.clients

/-- What happened. -/
inductive Event where
  /-- A call of a client's close has returned. -/
  | closed (client : Nat) (result : Except ClientError Unit)
  | shutDown (client : Nat)
  | asked (client : Nat)
  /-- A call of a context's close has returned. -/
  | returned (context : Nat)

namespace Event

/-- The client that an event is about. -/
def client? : Event → Option Nat
  | closed client _ | shutDown client | asked client => some client
  | returned _ => none

/-- Whether a client has shut its pool down. -/
def isShutdownOf (id : Nat) : Event → Bool
  | shutDown client => client == id
  | _ => false

/-- Whether a close of a client has succeeded. -/
def isSuccessOf (id : Nat) : Event → Bool
  | closed client (.ok ()) => client == id
  | _ => false

/-- Whether a client has asked its pool for a connection. -/
def isRequestOf (id : Nat) : Event → Bool
  | asked client => client == id
  | _ => false

end Event

end Clientele

open Clientele (Home Member Holder Item Event)

/-- Clients, what refers to them, and the contexts they were made on. -/
structure Clientele where
  homes : List Home := []
  /-- Clients that were ever made. -/
  members : List Member := []
  holders : List Holder := []
  history : List Event := []
  next : Nat := 0

namespace Clientele

def home? (clientele : Clientele) (id : Nat) : Option Home := clientele.homes.find? (·.id == id)

def member? (clientele : Clientele) (id : Nat) : Option Member :=
  clientele.members.find? (·.id == id)

def holder? (clientele : Clientele) (id : Nat) : Option Holder :=
  clientele.holders.find? (·.id == id)

/-- Whether anything refers to a client. -/
def isReferenced (clientele : Clientele) (client : Nat) : Bool :=
  clientele.holders.any (·.kept.contains client)

def updateHome (clientele : Clientele) (id : Nat) (change : Home → Home) : Clientele :=
  { clientele with
    homes := clientele.homes.map fun home => if home.id == id then change home else home }

def updateMember (clientele : Clientele) (id : Nat) (life : ClientLife) : Clientele :=
  { clientele with
    members := clientele.members.map fun member =>
      if member.id == id then { member with toClientLife := life } else member }

def note (clientele : Clientele) (event : Event) : Clientele :=
  { clientele with history := clientele.history ++ [event] }

/-! ## Making, closing and letting go -/

/-- Registers the close hook of a client on its context. -/
def hookUp (clientele : Clientele) (member : Member) : Clientele :=
  { clientele with homes := clientele.homes.map (·.joinedBy member) }

/-- Takes a client in, with its first handle. -/
def enter (clientele : Clientele) (client : Client) (context : Option Nat) : Clientele :=
  let member : Member :=
    { id := clientele.next, client, context, hook := clientele.next + 1 }
  let handle : Holder := { id := clientele.next + 2, client := member.id, item := .handle }
  { clientele.hookUp member with
    members := clientele.members ++ [member]
    holders := clientele.holders ++ [handle]
    next := clientele.next + 3 }

/-- Removes the close hook of a client from its context. -/
def unhook (clientele : Clientele) (member : Member) : Clientele :=
  { clientele with homes := clientele.homes.map (·.without member) }

/-- Changes a client, and parts it from its context and its pool. -/
def part (clientele : Clientele) (member : Member) (life : ClientLife) : Clientele :=
  ((clientele.updateMember member.id life).unhook member).note (.shutDown member.id)

def closeMember (clientele : Clientele) (member : Member) :
    Clientele × Except ClientError Unit :=
  match member.close with
  | (life, .ok ()) => ((clientele.part member life).note (.closed member.id (.ok ())), .ok ())
  | (_, .error error) => (clientele.note (.closed member.id (.error error)), .error error)

def letGo (clientele : Clientele) (member : Member) : Clientele :=
  match member.depart with
  | (life, true) => clientele.part member life
  | (life, false) => clientele.updateMember member.id life

/-- Lets a client go if nothing refers to it any more. -/
def reap (clientele : Clientele) (client : Nat) : Clientele :=
  match clientele.member? client with
  | none => clientele
  | some member =>
    if member.gone || clientele.isReferenced client then clientele else clientele.letGo member

/-- Something more refers to a client. -/
def hold (clientele : Clientele) (client : Nat) (item : Item) : Clientele :=
  { clientele with
    holders := clientele.holders ++ [{ id := clientele.next, client, item }]
    next := clientele.next + 1 }

/-- Drops a holder and lets go what it alone has held. -/
def release (clientele : Clientele) (holder : Holder) : Clientele :=
  holder.kept.foldl reap
    { clientele with holders := clientele.holders.filter (·.id != holder.id) }

/-- Makes something else of a holder and lets go what it alone has held. -/
def replace (clientele : Clientele) (holder : Holder) (item : Item) : Clientele :=
  holder.kept.foldl reap
    { clientele with
      holders := clientele.holders.map fun other =>
        if other.id == holder.id then { other with item } else other }

/-! ## Calls -/

/-- What a caller is told: nothing, or how the call has ended. -/
abbrev Reply := Option (Except ClientError Unit)

/-- A client asks its pool for a connection. -/
def ask (clientele : Clientele) (member : Member) : Clientele × Except ClientError Unit :=
  match member.checkOpen with
  | .error error => (clientele, .error error)
  | .ok () => (clientele.note (.asked member.id), .ok ())

/-- The client that can be called through a holder: that of a handle, and that of a send whose
redirect policy is asked. -/
def caller? (clientele : Clientele) (id : Nat) : Option Member :=
  (clientele.holder? id).bind fun holder =>
    match holder.item with
    | .handle | .send _ (.deciding _) => clientele.member? holder.client
    | _ => none

/-- Makes a client on a context, if there is one. -/
def make (clientele : Clientele) (config : Config) (here : Option Nat) : Clientele × Reply :=
  let home := here.bind clientele.home?
  match Client.create config (home.map (·.context.kind)) with
  | .error error => (clientele, some (.error error))
  | .ok client => (clientele.enter client (home.map (·.id)), some (.ok ()))

def told (ended : Clientele × Except ClientError Unit) : Clientele × Reply :=
  (ended.1, some ended.2)

def call (clientele : Clientele) (id : Nat)
    (answer : Member → Clientele × Except ClientError Unit) : Clientele × Reply :=
  match clientele.caller? id with
  | none => (clientele, none)
  | some member => told (answer member)

def dispatch (clientele : Clientele) (member : Member) (method host : String) (port : UInt16)
    (secure : Option Bool) (uri : String) (headers : Option Headers) :
    Clientele × Except ClientError Unit :=
  match member.client.dispatch method host port secure uri headers with
  | .error error => (clientele, .error error)
  | .ok request => (clientele.hold member.id (.request request), .ok ())

/-- Sets a success handler on a WebSocket to be opened. -/
def subscribe (clientele : Clientele) (holder : Holder) (stream : UpgradeStream Unit)
    (member : Member) : Clientele × Except ClientError Unit :=
  match stream.subscribe member.client with
  | (stream, .ignored) => (clientele.replace holder (.stream stream), .ok ())
  | (stream, .failed error) => (clientele.replace holder (.stream stream), .error error)
  | (stream, .started _) =>
    let asked := clientele.note (.asked member.id)
    ((asked.hold member.id (.upgrade 0)).replace holder (.stream stream), .ok ())

/-- An upgrade gets a connection to an endpoint, which is valid or not. -/
def arrive (clientele : Clientele) (holder : Holder) (retries : Nat) (member : Member)
    (endpoint : Endpoint) (valid : Bool) : Clientele × Except ClientError Unit :=
  match WebSocket.upgradeTurn retries endpoint valid with
  | .handshake => (clientele, .ok ())
  | .fail error => (clientele.release holder, .error error)
  | .retry =>
    match clientele.ask member with
    | (asked, .ok ()) => (asked.replace holder (.upgrade (retries + 1)), .ok ())
    | (refused, .error error) => (refused.release holder, .error error)

def exchange (clientele : Clientele) (holder : Holder) (loop : SendLoop) (member : Member) :
    Clientele × Except ClientError Unit :=
  match clientele.ask member with
  | (asked, .ok ()) => (asked.replace holder (.send loop (.exchanging member.id)), .ok ())
  | (refused, .error error) => (refused.release holder, .error error)

def respond (clientele : Clientele) (holder : Holder) (loop : SendLoop)
    (result : Except ClientError Response) : Clientele :=
  match loop.afterExchange result with
  | .finished _ => clientele.release holder
  | .consult response => clientele.replace holder (.send loop (.deciding response))

/-- What a redirect policy says. -/
inductive Verdict where
  | stay
  /-- A request that the policy holds follows. -/
  | next (request : Nat)
  | refuse (error : ClientError)
  | breakDown (text : String)

/-- Goes on with a send after its redirect policy has spoken; the request that follows, if one
does, is one of a client. -/
def follow (clientele : Clientele) (holder : Holder) (client : Nat) :
    SendLoop.AfterDecision → Clientele
  | .finished _ => clientele.release holder
  | .exchange loop => clientele.replace holder (.send loop (.ready client))

/-- The redirect policy of a send has spoken.  A request that it names becomes part of the
send. -/
def decide (clientele : Clientele) (holder : Holder) (loop : SendLoop) (response : Response) :
    Verdict → Clientele
  | .stay => clientele.follow holder holder.client (loop.afterDecision response .stay)
  | .refuse error =>
    clientele.follow holder holder.client (loop.afterDecision response (.refuse error))
  | .breakDown text =>
    clientele.follow holder holder.client (loop.afterDecision response (.breakDown (.string text)))
  | .next id =>
    match clientele.holder? id with
    | some named =>
      match named.item with
      | .request request =>
        (clientele.follow holder named.client
          (loop.afterDecision response (.next request))).release named
      | _ => clientele
    | none => clientele

/-! ## Contexts -/

def start (clientele : Clientele) (kind : ContextKind) : Clientele :=
  { clientele with
    homes := clientele.homes ++ [{ id := clientele.next, context := { kind } }]
    next := clientele.next + 1 }

/-- Somebody registers a close hook of its own. -/
def addHook (clientele : Clientele) (context : Nat) : Clientele :=
  { clientele.updateHome context fun home =>
      { home with context := home.context.addHook clientele.next .other } with
    next := clientele.next + 1 }

/-- Removes a close hook that is not that of a client, as nobody knows the identity of such a
hook. -/
def removeHook (clientele : Clientele) (context hook : Nat) : Clientele :=
  clientele.updateHome context fun home =>
    if home.context.hooks.any fun registered =>
        registered.id == hook && registered.action.client?.isSome then home
    else { home with context := (home.context.removeHook hook).1 }

/-- Somebody closes a context.  The first call takes the close hooks and has to run them; every
other call returns at once. -/
def beginClose (clientele : Clientele) (home : Home) : Clientele :=
  match home.context.beginClose with
  | (_, none) => clientele.note (.returned home.id)
  | (context, some hooks) =>
    clientele.updateHome home.id fun home => { home with context, unrun := hooks }

/-- Runs a close hook.  That of a client closes it, unless it is gone; what another one does are
the actions that follow. -/
def closeHooked (clientele : Clientele) (hook : CloseHook Hook) : Clientele :=
  match hook.action.client?.bind clientele.member? with
  | none => clientele
  | some member => if member.gone then clientele else (clientele.closeMember member).1

/-- The close of a context runs the next hook. -/
def runHook (clientele : Clientele) (home : Home) : Clientele :=
  match home.unrun with
  | [] => clientele
  | hook :: rest =>
    (clientele.closeHooked hook).updateHome home.id fun home => { home with unrun := rest }

/-- The call that has closed a context returns, once it has run all hooks. -/
def endClose (clientele : Clientele) (home : Home) : Clientele :=
  if home.context.closed && !home.context.stopping && home.unrun.isEmpty then
    (clientele.updateHome home.id fun home =>
      { home with context := home.context.endClose }).note (.returned home.id)
  else clientele

/-! ## Runs -/

/-- What happens next. -/
inductive Action where
  | startContext (kind : ContextKind)
  /-- Somebody registers a close hook of its own. -/
  | addHook (context : Nat)
  /-- Somebody removes such a hook. -/
  | removeHook (context hook : Nat)
  | beginClose (context : Nat)
  /-- The close of a context runs the next hook. -/
  | runHook (context : Nat)
  /-- The call that has closed a context returns. -/
  | endClose (context : Nat)
  /-- A client is made, on a context or without one. -/
  | make (config : Config) (here : Option Nat)
  /-- A client gets another handle. -/
  | clone (handle : Nat)
  | drop (holder : Nat)
  | close (handle : Nat)
  | dispatch (handle : Nat) (method host : String) (port : UInt16) (secure : Option Bool)
    (uri : String) (headers : Option Headers)
  /-- A connection is asked for, for a request or for a WebSocket. -/
  | acquire (handle : Nat)
  /-- A WebSocket is to be opened. -/
  | openStream (handle : Nat) (options : WebSocket.Options)
  /-- A success handler is set on it. -/
  | subscribe (stream : Nat)
  | arrive (upgrade : Nat) (endpoint : Endpoint) (valid : Bool)
  | send (request : Nat)
  | exchange (send : Nat)
  | respond (send : Nat) (result : Except ClientError Response)
  | decide (send : Nat) (verdict : Verdict)

def withHome (clientele : Clientele) (id : Nat) (change : Home → Clientele) : Clientele × Reply :=
  match clientele.home? id with
  | none => (clientele, none)
  | some home => (change home, none)

def withHolder (clientele : Clientele) (id : Nat) (change : Holder → Clientele × Reply) :
    Clientele × Reply :=
  match clientele.holder? id with
  | none => (clientele, none)
  | some holder => change holder

/-- What an action makes of clients, and what its caller is told. -/
def perform (clientele : Clientele) : Action → Clientele × Reply
  | .startContext kind => (clientele.start kind, none)
  | .addHook context => (clientele.addHook context, none)
  | .removeHook context hook => (clientele.removeHook context hook, none)
  | .beginClose context => clientele.withHome context clientele.beginClose
  | .runHook context => clientele.withHome context clientele.runHook
  | .endClose context => clientele.withHome context clientele.endClose
  | .make config here => clientele.make config here
  | .clone handle => clientele.call handle fun member => (clientele.hold member.id .handle, .ok ())
  | .drop holder => clientele.withHolder holder fun holder => (clientele.release holder, none)
  | .close handle => clientele.call handle clientele.closeMember
  | .dispatch handle method host port secure uri headers =>
    clientele.call handle fun member =>
      clientele.dispatch member method host port secure uri headers
  | .acquire handle => clientele.call handle clientele.ask
  | .openStream handle options =>
    clientele.call handle fun member => (clientele.hold member.id (.stream { options }), .ok ())
  | .subscribe stream => clientele.withHolder stream fun holder =>
    match holder.item, clientele.member? holder.client with
    | .stream stream, some member => told (clientele.subscribe holder stream member)
    | _, _ => (clientele, none)
  | .arrive upgrade endpoint valid => clientele.withHolder upgrade fun holder =>
    match holder.item, clientele.member? holder.client with
    | .upgrade retries, some member =>
      told (clientele.arrive holder retries member endpoint valid)
    | _, _ => (clientele, none)
  | .send request => clientele.withHolder request fun holder =>
    match holder.item, clientele.member? holder.client with
    | .request request, some member =>
      (clientele.replace holder (.send (.start member.client request) (.ready member.id)), none)
    | _, _ => (clientele, none)
  | .exchange send => clientele.withHolder send fun holder =>
    match holder.item with
    | .send loop (.ready client) =>
      match clientele.member? client with
      | some member => told (clientele.exchange holder loop member)
      | none => (clientele, none)
    | _ => (clientele, none)
  | .respond send result => clientele.withHolder send fun holder =>
    match holder.item with
    | .send loop (.exchanging _) => (clientele.respond holder loop result, none)
    | _ => (clientele, none)
  | .decide send verdict => clientele.withHolder send fun holder =>
    match holder.item with
    | .send loop (.deciding response) => (clientele.decide holder loop response verdict, none)
    | _ => (clientele, none)

/-- What actions make of clients, one after the other. -/
def run (clientele : Clientele) (actions : List Action) : Clientele :=
  actions.foldl (fun clientele action => (clientele.perform action).1) clientele

/-- How often a client has shut its pool down. -/
def shutdowns (clientele : Clientele) (client : Nat) : Nat :=
  clientele.history.countP (·.isShutdownOf client)

/-- How many closes of a client have succeeded. -/
def successes (clientele : Clientele) (client : Nat) : Nat :=
  clientele.history.countP (·.isSuccessOf client)

/-- How often a client has asked its pool for a connection. -/
def requests (clientele : Clientele) (client : Nat) : Nat :=
  clientele.history.countP (·.isRequestOf client)

end Clientele

end Courier
