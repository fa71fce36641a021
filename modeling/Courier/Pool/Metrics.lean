/-!
# Metrics of a pool
-/

namespace Courier

/-- What a pool tells about itself. -/
structure PoolMetrics where
  /-- Endpoints it keeps slots for. -/
  endpoints : Nat := 0
  activeConnections : Nat := 0
  /-- Requests that wait for a connection. -/
  waiting : Nat := 0
  /-- Connections handed over so far. -/
  totalEstablished : Nat := 0
  /-- Requests failed so far. -/
  totalFailed : Nat := 0
  /-- Whether it was shut down. -/
  closed : Bool := false
deriving DecidableEq, Repr

end Courier
