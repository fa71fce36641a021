import Courier.Rehearsal.Script
import Courier.Response

/-!
# Reports

What can be seen of a rehearsal: the reply to each step, the events it led to and what was
released on the way.
-/

namespace Courier.Rehearsal

open Http (Headers Version)
open WebSocket (Message)

/-- A connection as it is shown. -/
structure ConnectionView where
  endpoint : Endpoint
  protocol : Version
  valid : Bool
deriving DecidableEq, Repr

/-- A request for a connection as it is shown. -/
structure WaiterView where
  endpoint : Endpoint
  protocol : Version
  purpose : Purpose
  /-- Context on which it is delivered. -/
  context : Option String
  cancelled : Bool
deriving DecidableEq, Repr

/-- The reply to a step. -/
inductive Reply where
  | nothing
  | ok
  | pending
  | ended
  | truth (value : Bool)
  | count (value : Nat)
  | contextName (name : Option String)
  /-- The step names something that does not exist. -/
  | badStep (field : String)
  /-- A call failed. -/
  | failed (error : ClientError)
  | context (closed : Bool) (kind : ContextKind)
  /-- Whether something is closed. -/
  | closed (value : Bool)
  | metrics (metrics : PoolMetrics)
  /-- Protocols that a new client offers. -/
  | client (protocols : List String)
  | clientInfo (closed : Bool) (host : String) (port : UInt16) (secure : Bool)
  /-- Whether another policy is in force. -/
  | changed (value : Bool)
  | request (request : Request)
  | acquisition (endpoint : Endpoint) (cancelled : Bool)
  /-- A new request for a connection. -/
  | waiter (view : WaiterView)
  /-- A request for a connection, and whether nobody waits for it. -/
  | waiterInfo (view : WaiterView) (closed : Bool)
  /-- A connection that came back. -/
  | returnedConnection (view : ConnectionView)
  /-- An error that came back. -/
  | returnedError (error : ConnectError)
  /-- Whether an acquisition has been given up. -/
  | cancelled (value : Bool)
  | connection (view : ConnectionView)
  /-- Octets read. -/
  | octets (data : Bytes)
  /-- Number of octets written. -/
  | wrote (count : Nat)
  /-- A connection failed, for a reason named by its kind. -/
  | ioError (kind : String)
  /-- Whether a submission was accepted. -/
  | submitted (value : Bool)
  /-- Whether a WebSocket has been asked for. -/
  | subscribed (value : Bool)
  /-- What setting a success handler came to. -/
  | handler (result : Except ClientError Unit) (subscribed : Bool)
  /-- A message received. -/
  | message (message : Message)
  /-- A WebSocket failed. -/
  | webSocketFailed (error : WebSocketError)

/-- What the action of a closure came to. -/
inductive ThenReply where
  | nothing
  /-- Whether a hook was removed, if there ever was one. -/
  | unhooked (value : Option Bool)
  /-- Whether the context is closed. -/
  | closed (value : Bool)
  /-- Whether a submission was accepted. -/
  | submitted (value : Bool)
  /-- A hook was registered. -/
  | hooked (log : String)
deriving DecidableEq, Repr

/-- What happened. -/
inductive Event where
  /-- A scripted pool was asked for a connection. -/
  | acquire (pool : String) (via : Purpose) (view : WaiterView) (waiter : Option String)
  /-- A connection or an error came back to a scripted pool. -/
  | returned
  /-- A scripted pool was shut down. -/
  | shutdown (pool : String)
  /-- A peer read a request. -/
  | server (line : String) (headers : List (String × String)) (body : Bytes)
  /-- A peer read a message. -/
  | serverMessage (message : Message)
  /-- A policy was asked. -/
  | policy (status : Nat) (location : Option String)
  /-- A request was answered. -/
  | sent (request : String) (result : Except ClientError (Response × Bool)) (on : Option String)
  /-- An acquisition was settled. -/
  | acquired (acquisition : String) (result : Except ConnectError ConnectionView)
    (on : Option String)
  /-- A closure ran. -/
  | ran (log : String) (on : Option String) (reply : ThenReply)
  /-- A future ended. -/
  | finished (log : String) (on : Option String)
  /-- A close hook ran. -/
  | hook (log : String) (reply : ThenReply)
  /-- A WebSocket is open. -/
  | wsOpen (stream label : String) (on : Option String)
  /-- A WebSocket could not be opened. -/
  | wsError (stream label : String) (error : ClientError) (on : Option String)
  /-- The end handler of a WebSocket ran. -/
  | wsEnd (stream label : String) (on : Option String)
  /-- A step was done on a context. -/
  | step (on : Option String) (reply : Reply)

/-- What can be seen of one step. -/
structure StepReport where
  reply : Reply
  /-- What happened, in order. -/
  events : List Event
  /-- What was released, sorted. -/
  released : List String

/-- What a scripted pool has counted. -/
structure PoolCount where
  /-- Requests for connections. -/
  acquisitions : Nat
  shutdowns : Nat
  /-- Plans that were not used. -/
  unused : Nat
deriving DecidableEq, Repr

/-- What can be seen of a rehearsal. -/
structure Report where
  steps : List StepReport
  /-- The scripted pools. -/
  pools : List (String × PoolCount)

end Courier.Rehearsal
