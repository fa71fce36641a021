import Courier.Error

/-!
# Handing over a connection

A requester and a pool share a handoff.  The pool answers it once, with a connection or with an
error; the requester may give up at any time.  With a context, the answer goes through the job
queue of that context and is dropped there if the requester has given up in the meantime; without
one it reaches the requester at once.
-/

namespace Courier

/-- What a connection is wanted for. -/
inductive Purpose where
  /-- A request and its response. -/
  | request
  /-- A WebSocket. -/
  | webSocket
deriving DecidableEq, Repr

/-- The answer of a pool. -/
abbrev Answer (κ : Type) := Except ConnectError κ

/-- Where the right to answer is. -/
inductive Sender (κ : Type) where
  /-- The pool has not answered. -/
  | held
  /-- The answer is on its way through a context. -/
  | inFlight (answer : Answer κ)
  /-- Nothing more will come. -/
  | gone

/-- A request for a connection, as both sides see it. -/
structure Handoff (κ : Type) where
  cancelled : Bool := false
  /-- Whether the requester still holds its side. -/
  listening : Bool := true
  /-- Where the right to answer is. -/
  sender : Sender κ := .held
  /-- An answer that has arrived and was not taken. -/
  arrived : Option (Answer κ) := none

namespace Handoff

variable {κ : Type}

/-- How an answer travels. -/
inductive Route where
  /-- Straight to the requester. -/
  | direct
  /-- Through a context that accepts jobs. -/
  | context
  /-- Through a context that refuses jobs. -/
  | refused
deriving DecidableEq, Repr

/-- What became of an answer when the pool gave it. -/
inductive Reception (κ : Type) where
  /-- The requester has given up, and the answer comes back. -/
  | returned (answer : Answer κ)
  /-- The answer has arrived. -/
  | arrived
  /-- The answer is on its way. -/
  | underWay
  | dropped (answer : Answer κ)

/-- Whether the pool got rid of its answer. -/
def Reception.accepted : Reception κ → Bool
  | .returned _ => false
  | _ => true

/-- Whether the answer is still on its way or has arrived. -/
def Reception.kept : Reception κ → Bool
  | .arrived | .underWay => true
  | _ => false

/-- The answer that is on its way or has arrived. -/
def carried? (handoff : Handoff κ) : Option (Answer κ) :=
  match handoff.sender with
  | .inFlight answer => some answer
  | _ => handoff.arrived

/-- The connection that is on its way or has arrived. -/
def connection? (handoff : Handoff κ) : Option κ := handoff.carried?.bind Except.toOption

/-- Whether the requester has given up, as far as the pool can tell. -/
def isCancelled (handoff : Handoff κ) : Bool := handoff.cancelled || !handoff.listening

/-- The pool answers. -/
def resolve (handoff : Handoff κ) (route : Route) (answer : Answer κ) : Handoff κ × Reception κ :=
  if handoff.isCancelled then ({ handoff with sender := .gone }, .returned answer)
  else
    match route with
    | .direct => ({ handoff with sender := .gone, arrived := some answer }, .arrived)
    | .context => ({ handoff with sender := .inFlight answer }, .underWay)
    | .refused => ({ handoff with sender := .gone }, .dropped answer)

/-- The context runs the job that delivers the answer; gives the answer back if it has to be
dropped. -/
def publish (handoff : Handoff κ) : Handoff κ × Option (Answer κ) :=
  match handoff.sender with
  | .inFlight answer =>
    if handoff.cancelled || !handoff.listening then
      ({ handoff with sender := .gone }, some answer)
    else ({ handoff with sender := .gone, arrived := some answer }, none)
  | _ => (handoff, none)

/-- The pool, or the context on its way, drops the right to answer; gives the answer back if
there was one. -/
def dropSender (handoff : Handoff κ) : Handoff κ × Option (Answer κ) :=
  match handoff.sender with
  | .inFlight answer => ({ handoff with sender := .gone }, some answer)
  | _ => ({ handoff with sender := .gone }, none)

/-- The requester gives up and keeps its side. -/
def cancel (handoff : Handoff κ) : Handoff κ := { handoff with cancelled := true }

/-- The requester drops its side; gives an answer back that was not taken. -/
def dropReceiver (handoff : Handoff κ) : Handoff κ × Option (Answer κ) :=
  ({ handoff with cancelled := true, listening := false, arrived := none }, handoff.arrived)

/-- What the requester sees. -/
inductive Poll (κ : Type) where
  /-- Nothing yet. -/
  | pending
  /-- The request is settled. -/
  | ready (answer : Answer κ)

/-- The requester looks for the answer. -/
def poll (handoff : Handoff κ) : Poll κ :=
  if handoff.cancelled then .ready (.error .abandoned)
  else
    match handoff.arrived, handoff.sender with
    | some answer, _ => .ready answer
    | none, .gone => .ready (.error .abandoned)
    | none, _ => .pending

/-- The requester looks for the answer, and takes it unless it has given up before. -/
def take (handoff : Handoff κ) : Handoff κ × Poll κ :=
  (if handoff.cancelled then handoff else { handoff with arrived := none }, handoff.poll)

/-- Whether the requester would see anything. -/
def isSettled (handoff : Handoff κ) : Bool :=
  match handoff.poll with
  | .pending => false
  | .ready _ => true

end Handoff

end Courier
