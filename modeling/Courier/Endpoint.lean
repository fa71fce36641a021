import Courier.Host

/-!
# Endpoints

The place a connection is opened to.  Two acquisitions compete for the same slots exactly when
their endpoints are equal.
-/

namespace Courier

/-- Where a connection leads. -/
structure Endpoint where
  /-- Host to resolve. -/
  host : String
  /-- Port to dial. -/
  port : UInt16
  /-- Whether the connection is secured by TLS. -/
  secure : Bool
deriving DecidableEq, Repr

namespace Endpoint

/-- An endpoint as error messages write it; the port is always shown. -/
def text (endpoint : Endpoint) : String :=
  (if endpoint.secure then "tls" else "tcp") ++ "://" ++ authorityHost endpoint.host ++ ":"
    ++ toString endpoint.port

end Endpoint

end Courier
