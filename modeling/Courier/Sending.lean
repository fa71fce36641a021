import Courier.Send

/-!
# A send and its surroundings

A send goes on in turns: it asks for a connection, takes the answer of the pool, reads the response
and hears what the redirect policy has to say.  Between its turns others install another policy and
close clients.  A record is kept of all that happens.
-/

namespace Courier

open Http (Reply ReadingTerms ResponseReading)

namespace Sending

/-- What the peer of a connection sends, in parts, and how that ends. -/
structure Speech where
  parts : List Bytes
  /-- Whether the connection breaks, instead of being closed. -/
  breaks : Bool

/-- What reading the response comes to. -/
def Speech.outcome (speech : Speech) (terms : ReadingTerms) : Except ClientError Reply :=
  match speech.parts.foldl (ResponseReading.feed terms) (.head []), speech.breaks with
  | .done result, _ => result
  | .head _, true => .error (.exchange .broken)
  | .body _, true => .error (.body .unreadable)
  | .head _, false => .error (.exchange .incompleteHead)
  | .body reading, false =>
    match ResponseReading.close terms (.body reading) with
    | .done result => result
    | _ => .error (.body .unreadable)

inductive Stage where
  /-- An exchange is about to begin. -/
  | ready
  /-- The pool was asked for a connection. -/
  | acquiring
  /-- The request was written. -/
  | exchanging
  /-- A policy was asked about a response. -/
  | deciding (policy : Nat) (response : Response)
  | finished (result : Except ClientError Response)

inductive Event where
  | installed (policy : Nat)
  | closed (client : Nat)
  /-- The exchange of a request of a client begins. -/
  | began (client : Nat) (request : Request)
  | asked (client : Nat) (endpoint : Endpoint)
  /-- A connection has come from the pool. -/
  | connected
  /-- The exchange of a request has ended. -/
  | exchanged (request : Request) (result : Except ClientError Response)
  /-- A policy has decided; a request that it names is one of a client. -/
  | decided (policy : Nat) (decision : Decision) (client : Nat)

/-- What a send learns from outside in its next turn.  It looks only at what it waits for. -/
structure Outside where
  answer : Answer Unit
  speech : Speech
  decision : Decision
  /-- The client of the request that the decision names. -/
  client : Nat

inductive Action where
  /-- A redirect policy is installed on the client of the send. -/
  | install (policy : Nat)
  | close (client : Nat)
  | turn (outside : Outside)

def Action.isTurn : Action → Bool
  | turn _ => true
  | _ => false

end Sending

/-- A send, and the clients whose requests it sends. -/
structure Sending where
  /-- Clients by identity. -/
  clients : Nat → Client
  /-- The policy that is installed on the client of the send. -/
  policy : Nat
  loop : SendLoop
  /-- The client of the current request. -/
  client : Nat
  stage : Sending.Stage := .ready
  /-- What has happened, the latest first. -/
  history : List Sending.Event := []

namespace Sending

/-- A client starts to send one of its requests. -/
def start (clients : Nat → Client) (owner policy : Nat) (request : Request) : Sending where
  clients := clients
  policy := policy
  loop := .start (clients owner) request
  client := owner

def note (sending : Sending) (event : Event) : Sending :=
  { sending with history := event :: sending.history }

/-- The exchange of the current request has ended. -/
def settle (sending : Sending) (result : Except ClientError Response) : Sending :=
  let noted := sending.note (.exchanged sending.loop.current result)
  match sending.loop.afterExchange result with
  | .finished result => { noted with stage := .finished result }
  | .consult response => { noted with stage := .deciding sending.policy response }

def begin (sending : Sending) : Sending :=
  let begun := sending.note (.began sending.client sending.loop.current)
  if (sending.clients sending.client).closed then begun.settle (.error .clientClosed)
  else
    { begun.note (.asked sending.client sending.loop.current.target.endpoint) with
      stage := .acquiring }

/-- The pool has answered. -/
def receive (sending : Sending) (answer : Answer Unit) : Sending :=
  let received :=
    match answer with
    | .ok () => sending.note .connected
    | .error _ => sending
  match sending.loop.current.afterAnswer answer with
  | .error error => received.settle (.error error)
  | .ok _ => { received with stage := .exchanging }

def hear (sending : Sending) (speech : Speech) : Sending :=
  let request := sending.loop.current
  let terms := (sending.clients sending.client).readingTerms request
  sending.settle ((speech.outcome terms).map request.responseOf)

/-- The policy has decided about a response. -/
def obey (sending : Sending) (policy : Nat) (response : Response) (decision : Decision)
    (client : Nat) : Sending :=
  let noted := sending.note (.decided policy decision client)
  match sending.loop.afterDecision response decision with
  | .finished result => { noted with stage := .finished result }
  | .exchange loop => { noted with loop, client, stage := .ready }

def turn (sending : Sending) (outside : Outside) : Sending :=
  match sending.stage with
  | .ready => sending.begin
  | .acquiring => sending.receive outside.answer
  | .exchanging => sending.hear outside.speech
  | .deciding policy response => sending.obey policy response outside.decision outside.client
  | .finished _ => sending

def close (sending : Sending) (client : Nat) : Sending :=
  { sending.note (.closed client) with
    clients := fun other =>
      if other = client then { sending.clients other with closed := true }
      else sending.clients other }

def step (sending : Sending) : Action → Sending
  | .install policy => { sending.note (.installed policy) with policy }
  | .close client => sending.close client
  | .turn outside => sending.turn outside

/-- What actions make of a send, one after the other. -/
def run (sending : Sending) (actions : List Action) : Sending := actions.foldl step sending

end Sending

end Courier
