import Courier.Handoff
import Courier.Http.Outgoing
import Courier.Http.ResponseReader
import Courier.Redirect

/-!
# Sending

Sending a request is a loop of exchanges.  After each exchange a request that follows redirects
asks the redirect policy of its client for the next one; the number of redirects is bounded by
the configuration, and the bound is looked at after the policy has spoken.
-/

namespace Courier

namespace Request

/-- What a request makes of the answer of its pool: it is ready to be written over the connection,
or the exchange has failed. -/
def afterAnswer {κ : Type} (request : Request) :
    Answer κ → Except ClientError (κ × Http.Outgoing)
  | .error error => .error (.connect error)
  | .ok connection =>
    match request.outgoing with
    | .error cause => .error (.invalidArgument cause)
    | .ok outgoing => .ok (connection, outgoing)

def responseOf (request : Request) (reply : Http.Reply) : Response where
  status := reply.head.status
  version := reply.head.version
  headers := reply.head.headers
  body := reply.body
  method := request.method
  absoluteUri := request.absoluteUri

end Request

/-- What reading the response to a request of a client has to know. -/
def Client.readingTerms (client : Client) (request : Request) : Http.ReadingTerms where
  method := request.method
  bodyLimit := client.config.maxResponseBodyBytes.toNat

/-- What a breakdown carries. -/
inductive Payload where
  | literal (text : String)
  | string (text : String)
  | other
deriving DecidableEq, Repr

/-- The message of a breakdown. -/
def Payload.message : Payload → String
  | literal text | string text => text
  | other => "redirect policy panicked"

/-- What a redirect policy says about a response. -/
inductive Decision where
  /-- The response stands. -/
  | stay
  /-- Another request follows. -/
  | next (request : Request)
  /-- The policy fails. -/
  | refuse (error : ClientError)
  /-- The policy breaks down. -/
  | breakDown (payload : Payload)
deriving DecidableEq, Repr

/-- A send under way. -/
structure SendLoop where
  /-- Most redirects followed. -/
  limit : UInt32
  /-- Redirects followed so far. -/
  hops : UInt32 := 0
  /-- The request under way. -/
  current : Request
deriving DecidableEq, Repr

namespace SendLoop

/-- What follows an exchange. -/
inductive AfterExchange where
  | finished (result : Except ClientError Response)
  /-- The policy is asked. -/
  | consult (response : Response)

/-- What follows a decision. -/
inductive AfterDecision where
  | finished (result : Except ClientError Response)
  /-- Another exchange follows. -/
  | exchange (loop : SendLoop)

def start (client : Client) (request : Request) : SendLoop :=
  { limit := client.config.maxRedirects, current := request }

/-- Goes on after an exchange. -/
def afterExchange (loop : SendLoop) : Except ClientError Response → AfterExchange
  | .error error => .finished (.error error)
  | .ok response =>
    if loop.current.followRedirects then .consult response else .finished (.ok response)

/-- Goes on after the policy has decided about a response.  A request that a policy names follows
redirects in turn. -/
def afterDecision (loop : SendLoop) (response : Response) : Decision → AfterDecision
  | .stay => .finished (.ok response)
  | .refuse error => .finished (.error error)
  | .breakDown payload => .finished (.error (.redirectPolicy payload.message))
  | .next request =>
    let hops := loop.hops + 1
    if hops > loop.limit then
      .finished (.error (.tooManyRedirects loop.limit loop.current.absoluteUri))
    else .exchange { loop with hops, current := { request with followRedirects := true } }

/-- Whether the response of the current exchange answers the request that was sent first. -/
def isFirst (loop : SendLoop) : Bool := loop.hops == 0

end SendLoop

/-- The decision of the standard policy. -/
def Client.decide (client : Client) (response : Response) : Decision :=
  match client.follow response with
  | .ok (some request) => .next request
  | .ok none => .stay
  | .error error => .refuse error

end Courier
