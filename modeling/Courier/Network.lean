import Courier.Endpoint
import Courier.Error

/-!
# The network

What comes of dialing an endpoint.  A pool is given a network and learns about the world through
it alone.
-/

namespace Courier

/-- What came of dialing. -/
inductive Dialed where
  /-- A stream is open. -/
  | connected
  /-- There is no answer yet. -/
  | pending
  /-- Dialing failed. -/
  | failed (error : ConnectError)
deriving DecidableEq, Repr

/-- What comes of dialing each endpoint. -/
abbrev Network := Endpoint → Dialed

/-- A machine without a network: every address is out of reach, and a name with a null character
is not even looked up. -/
def Network.unreachable : Network := fun endpoint =>
  if endpoint.host.toList.contains '\x00' then .failed (.dns endpoint.host .nullInName)
  else .failed (.io endpoint.text .unreachable)

end Courier
