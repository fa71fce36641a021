import Courier.Proofs.History
import Courier.Sending

/-!
# The record of a send

What may stand in the record of a send after what, and which records end a send.
-/

namespace Courier.Sending

variable {clients : Nat → Client} {owner policy : Nat} {request : Request}

/-- Whether an event belongs to the send itself, and not to its surroundings. -/
def Event.isOwn : Event → Bool
  | .installed _ | .closed _ => false
  | _ => true

/-- What the send itself has done. -/
def own (history : List Event) : List Event := history.filter Event.isOwn

/-- The policy that is installed after what has happened, if a first one was before. -/
def policyAfter (first : Nat) : List Event → Nat
  | [] => first
  | .installed policy :: _ => policy
  | _ :: earlier => policyAfter first earlier

/-- A client that was open at first has not been closed. -/
def IsOpen (clients : Nat → Client) (history : List Event) (client : Nat) : Prop :=
  (clients client).closed = false ∧ .closed client ∉ history

def Event.begun? : Event → Option Request
  | .began _ request => some request
  | _ => none

/-- The requests whose exchanges have begun. -/
def begun (history : List Event) : List Request := history.filterMap Event.begun?

def Event.asked? : Event → Option Endpoint
  | .asked _ endpoint => some endpoint
  | _ => none

/-- The endpoints that pools have been asked for. -/
def asked (history : List Event) : List Endpoint := history.filterMap Event.asked?

def Event.decision? : Event → Option Decision
  | .decided _ decision _ => some decision
  | _ => none

/-- What policies have decided. -/
def decisions (history : List Event) : List Decision := history.filterMap Event.decision?

def Decision.next? : Decision → Option Request
  | .next request => some request
  | _ => none

/-- The requests that policies have named. -/
def named (history : List Event) : List Request := (decisions history).filterMap Decision.next?

/-- How the exchange of a request ends once there is a connection.  What the peer sends cannot make
it fail for its arguments. -/
inductive OverConnection (request : Request) : Except ClientError Response → Prop where
  | refused {cause : BadArgument} (unwritable : request.outgoing = .error cause) :
      OverConnection request (.error (.invalidArgument cause))
  | failed {written : Http.Outgoing} (writable : request.outgoing = .ok written)
      (failure : ExchangeFailure) : OverConnection request (.error (.exchange failure))
  | unread {written : Http.Outgoing} (writable : request.outgoing = .ok written)
      (failure : BodyFailure) : OverConnection request (.error (.body failure))
  | answered {written : Http.Outgoing} (writable : request.outgoing = .ok written)
      (reply : Http.Reply) : OverConnection request (.ok (request.responseOf reply))

/-- What an event of an exchange follows.  An exchange asks the pool of its client once, if the
client is open, and goes on with what the pool answers. -/
def Event.Proceeds (clients : Nat → Client) (earlier : List Event) : Event → Prop
  | .asked client endpoint =>
    ∃ current rest, own earlier = .began client current :: rest ∧
      endpoint = current.target.endpoint ∧ IsOpen clients earlier client
  | .connected => ∃ client endpoint rest, own earlier = .asked client endpoint :: rest
  | .exchanged current result =>
    (∃ client rest, own earlier = .began client current :: rest ∧
        ¬IsOpen clients earlier client ∧ result = .error .clientClosed) ∨
      (∃ client rest error,
        own earlier = .asked client current.target.endpoint :: .began client current :: rest ∧
          result = .error (.connect error)) ∨
      ∃ client rest,
        own earlier =
            .connected :: .asked client current.target.endpoint :: .began client current :: rest ∧
          OverConnection current result
  | _ => True

/-- What an event between two exchanges follows.  The first exchange is that of the first request,
and each later one that of a request that a policy has named.  A decision is taken about the
response of the last exchange, by the policy that was installed when it arrived. -/
def Event.Follows (owner policy : Nat) (request : Request) (earlier : List Event) : Event → Prop
  | .began client current =>
    (own earlier = [] ∧ client = owner ∧ current = request) ∨
      ∃ decider next rest, own earlier = .decided decider (.next next) client :: rest ∧
        current = { next with followRedirects := true }
  | .decided decider _ _ =>
    ∃ since current response before,
      earlier = since ++ .exchanged current (.ok response) :: before ∧ own since = [] ∧
        current.followRedirects = true ∧ decider = policyAfter policy before
  | _ => True

/-- With what result a send ends that has done something, its latest deed first. -/
inductive Ends (limit : UInt32) : List Event → Except ClientError Response → Prop where
  | failed {current : Request} {error : ClientError} {rest : List Event} :
      Ends limit (.exchanged current (.error error) :: rest) (.error error)
  | unfollowed {current : Request} {response : Response} {rest : List Event}
      (follows_not : current.followRedirects = false) :
      Ends limit (.exchanged current (.ok response) :: rest) (.ok response)
  | stayed {decider client : Nat} {current : Request} {response : Response} {rest : List Event} :
      Ends limit (.decided decider .stay client :: .exchanged current (.ok response) :: rest)
        (.ok response)
  | refused {decider client : Nat} {error : ClientError} {rest : List Event} :
      Ends limit (.decided decider (.refuse error) client :: rest) (.error error)
  | brokeDown {decider client : Nat} {payload : Payload} {rest : List Event} :
      Ends limit (.decided decider (.breakDown payload) client :: rest)
        (.error (.redirectPolicy payload.message))
  | exhausted {decider client : Nat} {next current : Request} {response : Response}
      {rest : List Event} (enough : (named rest).length = limit.toNat) :
      Ends limit
        (.decided decider (.next next) client :: .exchanged current (.ok response) :: rest)
        (.error (.tooManyRedirects limit current.absoluteUri))

/-- A send has ended because its policy has named a request beyond the limit; it reports the last
request that was exchanged. -/
def Exhausted (limit : UInt32) (sending : Sending) : Prop :=
  ∃ decider next client current response rest,
    own sending.history =
        .decided decider (.next next) client :: .exchanged current (.ok response) :: rest ∧
      sending.stage = .finished (.error (.tooManyRedirects limit current.absoluteUri))

end Courier.Sending
