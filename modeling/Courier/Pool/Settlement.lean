import Courier.Pool.Service

/-!
# How requests are settled

A pool is done with a request once it has offered a connection, reported a failure or dropped the
request without a word.  The history of a pool in service says which requests were settled, in
what order and how.
-/

namespace Courier

/-- How a pool is done with a request. -/
inductive Settlement where
  /-- A connection was offered, and accepted or handed back. -/
  | offered (connection : Nat) (accepted : Bool)
  /-- A failure was reported, to somebody who wanted to know or not. -/
  | reported (error : ConnectError) (accepted : Bool)
  /-- The request was dropped without a word. -/
  | dropped
deriving DecidableEq, Repr

namespace Settlement

/-- Whether a connection was handed over. -/
def isDelivery : Settlement → Bool
  | offered _ accepted => accepted
  | reported _ _ | dropped => false

/-- Whether a failure was reported. -/
def isFailure : Settlement → Bool
  | reported _ _ => true
  | offered _ _ | dropped => false

/-- Whether the request came to nothing: it was dropped, or its connection came back. -/
def isIdle : Settlement → Bool
  | offered _ accepted => !accepted
  | reported _ _ => false
  | dropped => true

/-- The answer that was accepted, if any. -/
def answer? : Settlement → Option (Answer Nat)
  | offered connection accepted => if accepted then some (.ok connection) else none
  | reported error accepted => if accepted then some (.error error) else none
  | dropped => none

end Settlement

/-- How a turn settled its request, if it did; `connection` is the one it opened, if any. -/
def TcpPool.TurnResult.settlement? (connection : Nat) : TcpPool.TurnResult → Option Settlement
  | .waiting => none
  | .silent => some .dropped
  | .failed error reception => some (.reported error reception.accepted)
  | .opened _ _ reception => some (.offered connection reception.accepted)
  | .late _ reception => some (.reported .poolClosed reception.accepted)

namespace Service

/-- The request that an action settles, if it settles one, and how.  A request that cannot be
served is settled as it is submitted, all others by turns of their tasks. -/
def settlement? (service : Service) : Action → Option (Nat × Settlement)
  | .submit runtime endpoint protocol context =>
    match (service.pool.submit runtime service.next endpoint protocol).2 with
    | .spawned => none
    | .failed error =>
      let (_, reception) := ({} : Handoff Nat).resolve (service.route context) (.error error)
      some (service.next, .reported error reception.accepted)
  | .serve request look dialed =>
    (service.requester? request).bind fun requester =>
      ((service.turnOf requester look dialed).result.settlement? service.next).map (request, ·)
  | _ => none

/-- The requests that actions settle, in order. -/
def settlements (service : Service) : List Action → List (Nat × Settlement)
  | [] => []
  | action :: rest => (service.settlement? action).toList ++ (service.step action).settlements rest

/-- Whether an action submits a request. -/
def Action.isSubmission : Action → Bool
  | .submit _ _ _ _ => true
  | _ => false

end Service

/-- How a request was settled, each time that it was. -/
def Settlement.ofRequest (history : List (Nat × Settlement)) (id : Nat) : List Settlement :=
  (history.filter (·.1 == id)).map (·.2)

end Courier
