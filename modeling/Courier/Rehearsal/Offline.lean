import Courier.Handoff
import Courier.Pool.Tcp

/-!
# A request without a runtime

What becomes of a request for a connection that is submitted to a dialing pool where nothing can
serve it.
-/

namespace Courier.Rehearsal

/-- What the requester sees, and what the pool tells about itself. -/
structure OfflineReport where
  answer : Option (Answer Unit)
  metrics : PoolMetrics

/-- Submits a request to a new pool, which may have been shut down before. -/
def offline (endpoint : Endpoint) (shutdownFirst : Bool) : OfflineReport :=
  let config : Config := {}
  let pool : TcpPool := { limits := config.pool, tls := .ofConfig config }
  let pool := if shutdownFirst then pool.shutdown.1 else pool
  let (pool, submitted) := pool.submit false 0 endpoint config.protocolVersion
  let handoff : Handoff Unit := match submitted with
    | .spawned => {}
    | .failed error => (({} : Handoff Unit).resolve .direct (.error error)).1
  { answer := match handoff.poll with
      | .pending => none
      | .ready answer => some answer
    metrics := pool.metrics }

end Courier.Rehearsal
