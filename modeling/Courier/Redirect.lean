import Courier.Client
import Courier.Response

/-!
# Redirects

`Redirect.resolve?` finds out where a response leads.  The statuses 301, 302 and 303 lead to a
`GET`, 307 keeps the method, and no other status leads anywhere; a `Location` that cannot be used
is ignored.
-/

namespace Courier

/-- Where a response leads. -/
structure Redirect where
  /-- Method of the next request. -/
  method : String
  /-- Host of the next request. -/
  host : String
  /-- Port of the next request. -/
  port : UInt16
  /-- Whether the next request is secured. -/
  secure : Bool
  /-- Path and query of the next request. -/
  uri : String
deriving DecidableEq, Repr

namespace Redirect

/-- The method that a redirecting status asks for. -/
def method? (status : Nat) (method : String) : Option String :=
  if status ∈ [301, 302, 303] then some "GET"
  else if status == 307 then some method
  else none

/-- Whether a scheme can be followed, and if so whether it is secure. -/
def security? (scheme : String) : Option Bool :=
  match scheme with
  | "http" => some false
  | "https" => some true
  | _ => none

/-- The URL that a reference on a page at another URL stands for. -/
def destination? (base reference : String) : Option Url := do
  let base ← (Url.parse base).toOption
  (base.join reference).toOption

/-- The next request that a URL stands for. -/
def ofUrl? (method : String) (url : Url) : Option Redirect := do
  return {
    method
    secure := ← security? url.scheme
    host := ← url.hostText?
    port := ← url.effectivePort?
    uri := url.target }

/-- Where a response leads, if anywhere. -/
def resolve? (response : Response) : Option Redirect := do
  let method ← method? response.status response.method
  let location ← response.location?
  ofUrl? method (← destination? response.absoluteUri location)

end Redirect

/-- The standard answer to a response: the request it leads to, with fresh headers. -/
def Client.follow (client : Client) (response : Response) : Except ClientError (Option Request) :=
  match Redirect.resolve? response with
  | none => .ok none
  | some next =>
    (client.dispatch next.method next.host next.port (some next.secure) next.uri none).map some

end Courier
