import Courier.Config.Basic
import Courier.Context
import Courier.Error
import Courier.Handoff
import Courier.Pool.Tcp
import Courier.Send
import Courier.WebSocket.Message
import Courier.WebSocket.Options

/-!
# Scripts

A script is a list of steps against clients, pools, contexts and peers, all of which it refers to
by names of its own.
-/

namespace Courier.Rehearsal

open Http (Headers Version)
open WebSocket (Message)

/-- How the peer of a connection behaves. -/
inductive PeerScript where
  /-- It reads and never answers. -/
  | silent
  /-- It drops the connection at once. -/
  | close
  /-- It sends back what it reads. -/
  | echo
  /-- It reads one request, answers it, and closes unless it is to hold the connection. -/
  | http (response : Bytes) (hold : Bool)
  /-- It answers one request, then speaks as the server of a WebSocket. -/
  | webSocket (response : Bytes) (greetings : List Message) (echo : Bool)
deriving DecidableEq, Repr

/-- A connection to be made. -/
structure ConnectionScript where
  /-- Where it leads; otherwise where it was asked to lead. -/
  endpoint : Option Endpoint := none
  protocol : Version := .http11
  /-- Whether it is invalid from the start. -/
  invalid : Bool := false
  /-- Name under which it is noticed. -/
  name : Option String := none
  /-- Octets it holds each way. -/
  capacity : Nat := 16384
  peer : PeerScript := .silent
deriving DecidableEq, Repr

/-- What a scripted pool does with the next request for a connection. -/
inductive Plan where
  /-- It hands over a connection. -/
  | connect (connection : ConnectionScript)
  | fail (error : ConnectError)
  /-- It drops the request. -/
  | drop
deriving Repr

/-- What a policy breaks down with. -/
inductive Breakdown where
  /-- A fixed text. -/
  | fixed
  | message (text : String)
  /-- No text at all. -/
  | speechless
deriving DecidableEq, Repr

/-- What a breakdown carries. -/
def Breakdown.payload : Breakdown → Payload
  | fixed => .literal "policy bug"
  | message text => .string text
  | speechless => .other

/-- The request a policy leads to. -/
structure NextRequest where
  method : String := "GET"
  /-- Path and query on the default host. -/
  uri : String
  headers : Option Headers := none
  /-- Body to be set. -/
  body : Option Bytes := none
  follow : Option Bool := none
deriving DecidableEq, Repr

/-- A redirect policy. -/
inductive PolicyScript where
  /-- The standard rules. -/
  | standard
  /-- No redirect. -/
  | never
  /-- A complaint. -/
  | refuse (message : String)
  | breakDown (breakdown : Breakdown)
  /-- A fixed request after any redirecting status; decided only at a second look. -/
  | goTo (next : NextRequest)
  /-- The same after closing the client. -/
  | closeThenGoTo (next : NextRequest)
  /-- A fixed path after any redirecting status, unnoticed. -/
  | closure (uri : String)
deriving DecidableEq, Repr

/-- What a closure does when it runs. -/
inductive Then where
  | nothing
  /-- Removes a close hook from its context. -/
  | unhook (hook : String)
  /-- Closes its context. -/
  | close
  /-- Submits another closure to its context. -/
  | execute (log : String) (next : Then)
  /-- Registers a close hook with its context. -/
  | hook (log : String)
deriving Repr

/-- How a request is built. -/
inductive Call where
  | absolute (url : String)
  | origin (host : String) (port : UInt16) (secure : Option Bool) (uri : String)
    (headers : Option Headers)
  /-- For the default host. -/
  | default (uri : String)
deriving DecidableEq, Repr

/-- Makes the call. -/
def Call.run (call : Call) (client : Client) (method : String) : Except ClientError Request :=
  match call with
  | .absolute url => client.dispatchAbsolute method url
  | .origin host port secure uri headers => client.dispatch method host port secure uri headers
  | .default uri => client.request method uri

/-- Changes to a request. -/
structure Changes where
  follow : Option Bool := none
  /-- New body. -/
  body : Option Bytes := none
  /-- Whether the headers are to be looked at. -/
  touchHeaders : Bool := false
  /-- Headers to be added. -/
  append : List (String × Bytes) := []
  insert : List (String × Bytes) := []
deriving DecidableEq, Repr

/-- What one step does. -/
inductive Action where
  /-- Starts a context. -/
  | context (name : String) (kind : ContextKind)
  /-- Looks at a context. -/
  | contextInfo (context : String)
  | contextClose (context : String)
  /-- Drops the script's hold on a context. -/
  | contextDrop (context : String)
  /-- Asks for the current context. -/
  | current
  /-- Submits a closure. -/
  | execute (context log : String) (next : Then)
  /-- Submits a future, which may wait for a gate. -/
  | spawn (context log : String) (gate : Option String)
  /-- Opens a gate. -/
  | openGate (gate : String)
  /-- Registers a close hook. -/
  | hook (context name log : String) (next : Then)
  /-- Removes a close hook. -/
  | unhook (context hook : String)
  /-- Makes or extends a scripted pool. -/
  | pool (name : String) (plans : List Plan)
  /-- Makes a pool that dials. -/
  | tcpPool (name : String) (config : Config) (connector : Option Connector)
  /-- Makes a client on a named pool, or on a dialing pool of its own. -/
  | client (name : String) (pool : Option String) (config : Config) (connector : Option Connector)
  /-- Copies a handle of a client. -/
  | clone (client name : String)
  | close (client : String)
  /-- Drops a handle of a client. -/
  | dropClient (client : String)
  /-- Looks at a client. -/
  | clientInfo (client : String)
  /-- Asks the pool of a client for its metrics. -/
  | clientMetrics (client : String)
  /-- Asks a pool for its metrics. -/
  | poolMetrics (pool : String)
  /-- Shuts a pool down. -/
  | shutdownPool (pool : String)
  /-- Sets the redirect policy of a client. -/
  | policy (client : String) (policy : PolicyScript)
  /-- Builds a request. -/
  | dispatch (name client method : String) (call : Call)
  | set (request : String) (changes : Changes)
  /-- Drops a request. -/
  | dropRequest (request : String)
  /-- Sends a request. -/
  | send (request : String)
  /-- Asks a client for a connection. -/
  | acquire (purpose : Purpose) (name client host : String) (port : UInt16) (secure : Bool)
  /-- Makes a request for a connection by hand. -/
  | waiter (name : String) (endpoint : Endpoint) (protocol : Version) (purpose : Purpose)
    (context pool : Option String)
  /-- Looks at a request for a connection. -/
  | waiterInfo (waiter : String)
  /-- Answers a request for a connection with one. -/
  | establish (waiter : String) (connection : ConnectionScript)
  /-- Answers a request for a connection with an error. -/
  | fail (waiter : String) (error : ConnectError)
  /-- Drops a request for a connection unanswered. -/
  | dropWaiter (waiter : String)
  | cancel (acquisition : String)
  /-- Drops an acquisition. -/
  | dropAcquisition (acquisition : String)
  | await (acquisition context : String)
  /-- Looks at a connection. -/
  | connInfo (connection : String)
  /-- Drops a connection. -/
  | dropConn (connection : String)
  | invalidate (connection : String)
  | connWrite (connection : String) (data : Bytes)
  /-- Reads from a connection. -/
  | connRead (connection : String) (limit : Nat)
  /-- Shuts down the writing side of a connection. -/
  | connShutdown (connection : String)
  /-- Makes a WebSocket to be opened later. -/
  | webSocket (name client : String) (options : WebSocket.Options)
  /-- Sets the success handler, which opens the WebSocket. -/
  | wsHandler (stream label : String)
  /-- Sets the exception handler. -/
  | wsException (stream label : String)
  /-- Sets the end handler. -/
  | wsEnd (stream label : String)
  /-- Pauses and resumes. -/
  | wsPause (stream : String)
  /-- Drops the WebSocket to be opened. -/
  | wsDropStream (stream : String)
  /-- Sends a message over an open WebSocket. -/
  | wsSend (stream : String) (message : Message)
  /-- Receives a message from an open WebSocket. -/
  | wsReceive (stream : String)
  /-- Drops an open WebSocket. -/
  | wsDrop (stream : String)
  | nothing
  /-- A step that cannot be read, for the field named. -/
  | unreadable (field : String)
deriving Repr

structure Step where
  action : Action
  /-- Context on which it is done, if not at once. -/
  on : Option String := none
  /-- Whether everything is let run afterwards. -/
  settle : Bool := true
deriving Repr

end Courier.Rehearsal
