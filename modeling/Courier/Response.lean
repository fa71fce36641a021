import Courier.Http.Headers
import Courier.Http.Version

/-!
# Responses

A response whose body has been read, together with what it answers, so that a `Location` can be
resolved against the request.
-/

namespace Courier

open Http (Headers Version)

/-- A complete response. -/
structure Response where
  status : Nat
  version : Version := .http11
  headers : Headers
  body : Bytes
  method : String
  /-- Full URI of the request. -/
  absoluteUri : String
deriving DecidableEq, Repr

namespace Response

/-- The first `Location`, if it is visible ASCII. -/
def location? (response : Response) : Option String :=
  (response.headers.get? "location").bind Bytes.visible?

/-- The body as text, with ill-formed parts replaced. -/
def text (response : Response) : String := response.body.toStringLossy

end Response

end Courier
