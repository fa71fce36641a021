import Courier.Handoff
import Courier.Pool.Tcp

/-!
# Turns of a task and their requesters

A turn of a task may settle its request.  Then the requester gets an answer, if it still wants
one; a connection that does not get through to it is dropped, which ends its lease.
-/

namespace Courier

open Http (Version)

namespace TcpPool

/-- What a turn of a task came to, for its requester and for a connection it opened. -/
inductive TurnResult where
  /-- The task waits. -/
  | waiting
  /-- The task has ended without an answer. -/
  | silent
  | failed (error : ConnectError) (reception : Handoff.Reception Nat)
  /-- A connection with a lease was offered to the requester. -/
  | opened (slot : Nat) (protocol : Version) (reception : Handoff.Reception Nat)
  /-- A connection was opened after a shutdown and dropped, and the request failed. -/
  | late (protocol : Version) (reception : Handoff.Reception Nat)

/-- A pool and a handoff after a turn. -/
structure Turn where
  pool : TcpPool
  /-- The handoff of the request. -/
  handoff : Handoff Nat
  /-- What the turn came to. -/
  result : TurnResult

/-- What a pool sees of a requester. -/
def RequesterView.ofHandoff (handoff : Handoff Nat) : RequesterView where
  cancelled := handoff.isCancelled
  dropped := !handoff.listening

/-- Offers a connection with a lease to a requester. -/
def offer (pool : TcpPool) (handoff : Handoff Nat) (route : Handoff.Route)
    (slot connection : Nat) (protocol : Version) : Turn :=
  let (handoff, reception) := handoff.resolve route (.ok connection)
  let pool := if reception.accepted then pool.countEstablished else pool
  let pool := if reception.kept then pool else pool.endLease slot connection
  ⟨pool, handoff, .opened slot protocol reception⟩

/-- Drops a connection that was opened after a shutdown, and lets its request fail. -/
def refuseLate (pool : TcpPool) (handoff : Handoff Nat) (route : Handoff.Route)
    (slot connection : Nat) (protocol : Version) : Turn :=
  let (handoff, reception) := handoff.resolve route (.error .poolClosed)
  ⟨pool.countFailure.endLease slot connection, handoff, .late protocol reception⟩

/-- One turn of a task with all that follows from it.  A connection that is opened gets the
identity that is given. -/
def turn (pool : TcpPool) (network : Network) (look : FirstLook) (route : Handoff.Route)
    (id connection : Nat) (handoff : Handoff Nat) : Turn :=
  match pool.poll network look (.ofHandoff handoff) id with
  | (pool, .waiting) => ⟨pool, handoff, .waiting⟩
  | (pool, .givenUp) | (pool, .crashed) => ⟨pool, handoff.dropSender.1, .silent⟩
  | (pool, .failed error) =>
    let (handoff, reception) := handoff.resolve route (.error error)
    ⟨pool, handoff, .failed error reception⟩
  | (pool, .connected slot protocol) =>
    let pool := pool.lease id slot connection
    if pool.closed then pool.refuseLate handoff route slot connection protocol
    else pool.offer handoff route slot connection protocol

end TcpPool

end Courier
