import Courier.Context
import Courier.Handoff

/-!
# Delivering an answer

One request for a connection with everybody who takes part in it: the requester, the pool and the
context on which the answer is delivered, if there is one.  They act in any order, and a record is
kept of what they do and of what becomes of the answer.
-/

namespace Courier

namespace Delivery

/-- What waits at a context. -/
inductive Job where
  /-- The job that delivers the answer. -/
  | deliver
  | other
deriving DecidableEq, Repr

/-- What happens to a request. -/
inductive Event (κ : Type) where
  /-- The requester gives up and keeps its side. -/
  | cancelled
  /-- The requester drops its side. -/
  | forsaken
  /-- The pool answers. -/
  | given (answer : Answer κ)
  /-- The answer comes back to the pool. -/
  | returned (answer : Answer κ)
  /-- The pool drops the right to answer. -/
  | withdrawn
  /-- The answer arrives at the requester, brought by the driver of a context or straight. -/
  | published (byDriver : Bool) (answer : Answer κ)
  /-- The context refuses the job, and the answer is dropped. -/
  | refused (answer : Answer κ)
  /-- The context drops the job, and the answer with it. -/
  | lost (answer : Answer κ)
  /-- The job finds that the requester has given up, and drops the answer. -/
  | unwanted (answer : Answer κ)
  /-- The answer is dropped with the side of the requester. -/
  | unread (answer : Answer κ)
  /-- The requester is told the answer. -/
  | settled (answer : Answer κ)

/-- What somebody does next. -/
inductive Action (κ ψ : Type) where
  /-- The requester gives up and keeps its side. -/
  | cancel
  /-- The requester drops its side. -/
  | forsake
  /-- The requester looks for the answer. -/
  | look
  /-- The pool answers, with a connection or with an error. -/
  | give (answer : Answer κ)
  /-- The pool drops the right to answer. -/
  | withdraw
  /-- Somebody submits another closure to the context. -/
  | execute
  /-- Somebody submits a future to the context. -/
  | spawn (future : ψ)
  /-- A close of the context begins. -/
  | beginClose
  /-- A close of the context ends. -/
  | endClose
  /-- The driver of the context has a turn. -/
  | drive
  /-- The driver of the context breaks down. -/
  | breakDown

end Delivery

/-- A request with its requester, its pool and its context. -/
structure Delivery (κ ψ η : Type) where
  /-- What requester and pool share. -/
  handoff : Handoff κ := {}
  /-- The context on which the answer is delivered. -/
  context : Option (Context Delivery.Job ψ η)
  /-- Whether the requester was told an answer that it had not brought about itself. -/
  finished : Bool := false
  /-- What has happened, the latest first. -/
  history : List (Delivery.Event κ) := []

namespace Delivery

variable {κ ψ η : Type}

/-- A new request, with a new context of a kind or without one. -/
def start (kind : Option ContextKind) : Delivery κ ψ η where
  context := kind.map fun kind => { kind }

/-- Whether a piece of work delivers the answer. -/
def delivers : Job ⊕ ψ → Bool
  | .inl .deliver => true
  | _ => false

/-- Whether the job that delivers the answer waits at the context. -/
def waits (delivery : Delivery κ ψ η) : Bool :=
  delivery.context.any fun context => context.jobs.any delivers

/-- The way of an answer. -/
def route (delivery : Delivery κ ψ η) : Handoff.Route :=
  match delivery.context with
  | none => .direct
  | some context => if context.accepts then .context else .refused

/-- Records what has happened. -/
def record (delivery : Delivery κ ψ η) (event : Event κ) : Delivery κ ψ η :=
  { delivery with history := event :: delivery.history }

/-- Records what became of an answer that was dropped, if one was. -/
def recordAnswer (delivery : Delivery κ ψ η) (event : Answer κ → Event κ)
    (answer : Option (Answer κ)) : Delivery κ ψ η :=
  match answer with
  | none => delivery
  | some answer => delivery.record (event answer)

def changeContext (delivery : Delivery κ ψ η)
    (change : Context Job ψ η → Context Job ψ η) : Delivery κ ψ η :=
  { delivery with context := delivery.context.map change }

/-- The requester gives up. -/
def cancel (delivery : Delivery κ ψ η) : Delivery κ ψ η :=
  if delivery.handoff.listening then
    { delivery with handoff := delivery.handoff.cancel }.record .cancelled
  else delivery

/-- The requester drops its side. -/
def forsake (delivery : Delivery κ ψ η) : Delivery κ ψ η :=
  if delivery.handoff.listening then
    let (handoff, unread) := delivery.handoff.dropReceiver
    ({ delivery with handoff }.record .forsaken).recordAnswer .unread unread
  else delivery

/-- The requester looks for the answer.  Once it was told one, it does not look again unless it
has given up. -/
def look (delivery : Delivery κ ψ η) : Delivery κ ψ η :=
  if delivery.handoff.listening && (!delivery.finished || delivery.handoff.cancelled) then
    match delivery.handoff.take with
    | (_, .pending) => delivery
    | (handoff, .ready answer) =>
      { delivery with
        handoff
        finished := delivery.finished || !delivery.handoff.cancelled }.record (.settled answer)
  else delivery

/-- What becomes of an answer that the pool has given. -/
def receive (delivery : Delivery κ ψ η) : Handoff.Reception κ → Answer κ → Delivery κ ψ η
  | .returned answer, _ => delivery.record (.returned answer)
  | .arrived, answer => delivery.record (.published false answer)
  | .underWay, _ => delivery.changeContext fun context => (context.execute .deliver).1
  | .dropped answer, _ => delivery.record (.refused answer)

/-- The pool answers, if it has not done so. -/
def give (delivery : Delivery κ ψ η) (answer : Answer κ) : Delivery κ ψ η :=
  match delivery.handoff.sender with
  | .held =>
    let (handoff, reception) := delivery.handoff.resolve delivery.route answer
    ({ delivery with handoff }.record (.given answer)).receive reception answer
  | _ => delivery

/-- The pool drops the right to answer, if it has it. -/
def withdraw (delivery : Delivery κ ψ η) : Delivery κ ψ η :=
  match delivery.handoff.sender with
  | .held => { delivery with handoff := delivery.handoff.dropSender.1 }.record .withdrawn
  | _ => delivery

/-- The driver runs the job that delivers the answer. -/
def deliver (delivery : Delivery κ ψ η) : Delivery κ ψ η :=
  let published := { delivery with handoff := delivery.handoff.publish.1 }
  match delivery.handoff.sender, delivery.handoff.publish.2 with
  | .inFlight answer, none => published.record (.published true answer)
  | _, unwanted => published.recordAnswer .unwanted unwanted

/-- The driver stops and drops what waits. -/
def stop (delivery : Delivery κ ψ η) (context : Context Job ψ η) : Delivery κ ψ η :=
  let (halted, dropped) := context.halt
  if dropped.any delivers then
    let (handoff, lost) := delivery.handoff.dropSender
    { delivery with context := some halted, handoff }.recordAnswer .lost lost
  else { delivery with context := some halted }

/-- The driver has a turn, unless it has stopped. -/
def drive (delivery : Delivery κ ψ η) : Delivery κ ψ η :=
  match delivery.context with
  | none => delivery
  | some context =>
    if context.stopped then delivery
    else
      match context.turn with
      | (context, .stop) => delivery.stop context
      | (context, .run .deliver) => { delivery with context := some context }.deliver
      | (context, _) => { delivery with context := some context }

/-- The driver breaks down, unless it has stopped. -/
def breakDown (delivery : Delivery κ ψ η) : Delivery κ ψ η :=
  match delivery.context with
  | none => delivery
  | some context => if context.stopped then delivery else delivery.stop context

/-- What an action makes of a request. -/
def step (delivery : Delivery κ ψ η) : Action κ ψ → Delivery κ ψ η
  | .cancel => delivery.cancel
  | .forsake => delivery.forsake
  | .look => delivery.look
  | .give answer => delivery.give answer
  | .withdraw => delivery.withdraw
  | .execute => delivery.changeContext fun context => (context.execute .other).1
  | .spawn future => delivery.changeContext fun context => (context.spawn future).1
  | .beginClose => delivery.changeContext fun context => context.beginClose.1
  | .endClose => delivery.changeContext (·.endClose)
  | .drive => delivery.drive
  | .breakDown => delivery.breakDown

/-- What actions make of a request, one after the other. -/
def run (delivery : Delivery κ ψ η) (actions : List (Action κ ψ)) : Delivery κ ψ η :=
  actions.foldl step delivery

end Delivery

end Courier
