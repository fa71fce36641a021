import Courier.Endpoint
import Courier.Error

/-!
# Slots of an endpoint

An endpoint has a fixed number of permits.  A reservation takes a free one, or queues for one, or
fails because the queue is full; a permit becomes a lease when its connection is established.  A
permit that is given back goes to the longest waiting reservation, which notices at its next poll.
-/

namespace Courier

/-- A reservation in the queue of an endpoint. -/
structure Reservation where
  /-- Identity of the reservation. -/
  id : Nat
  /-- Whether a permit has been assigned to it. -/
  assigned : Bool := false
deriving DecidableEq, Repr

/-- The permits of one endpoint and who holds or awaits them. -/
structure Slot where
  endpoint : Endpoint
  maxConnections : Nat
  /-- Greatest number of reservations that may wait. -/
  maxWaiters : Nat
  /-- Whether the slot refuses further reservations. -/
  closed : Bool := false
  /-- Permits that nobody holds. -/
  free : Nat
  /-- Reservations waiting for a permit or assigned one, in order of arrival. -/
  queue : List Reservation := []
  /-- Number of reservations counted as waiting. -/
  waiting : Nat := 0
  /-- Reservations that hold a permit and have no connection yet. -/
  granted : List Nat := []
  /-- Number of connections counted as open. -/
  active : Nat := 0
  /-- Connections with a lease. -/
  live : List Nat := []
deriving DecidableEq, Repr

namespace Slot

/-- A slot nobody uses. -/
def create (endpoint : Endpoint) (maxConnections maxWaiters : Nat) : Slot where
  endpoint := endpoint
  maxConnections := maxConnections
  maxWaiters := maxWaiters
  free := maxConnections

/-- The answer to a poll of a reservation. -/
inductive Answer where
  /-- A permit was granted. -/
  | granted
  /-- The reservation failed. -/
  | failed (error : ConnectError)
  /-- The reservation is waiting. -/
  | pending
deriving DecidableEq, Repr

/-- Assigns a permit to the first reservation without one, if there is any. -/
def assignFirst : List Reservation → Option (List Reservation)
  | [] => none
  | first :: rest =>
    if first.assigned then (assignFirst rest).map (first :: ·)
    else some ({ first with assigned := true } :: rest)

/-- Gives a permit back: to the longest waiting reservation of an open slot, or to nobody. -/
def giveBack (slot : Slot) : Slot :=
  match if slot.closed then none else assignFirst slot.queue with
  | some queue => { slot with queue }
  | none => { slot with free := slot.free + 1 }

/-- The error of a reservation that finds the queue full. -/
def exhausted (slot : Slot) : ConnectError :=
  .poolExhausted slot.endpoint.text slot.maxConnections slot.maxWaiters

/-- The first poll of a reservation. -/
def reserve (slot : Slot) (id : Nat) : Slot × Answer :=
  if slot.closed then (slot, .failed .poolClosed)
  else if slot.free > 0 then
    ({ slot with free := slot.free - 1, granted := slot.granted ++ [id] }, .granted)
  else if slot.waiting ≥ slot.maxWaiters then (slot, .failed slot.exhausted)
  else ({ slot with queue := slot.queue ++ [⟨id, false⟩], waiting := slot.waiting + 1 }, .pending)

/-- Takes a reservation out of the queue. -/
def unqueue (slot : Slot) (id : Nat) : Slot :=
  { slot with queue := slot.queue.filter (·.id != id), waiting := slot.waiting - 1 }

/-- Gives back the permit of a reservation, if it was assigned one. -/
def giveBackAssigned (slot : Slot) (reservation : Reservation) : Slot :=
  if reservation.assigned then slot.giveBack else slot

/-- A later poll of a reservation in the queue. -/
def poll (slot : Slot) (id : Nat) : Slot × Answer :=
  match slot.queue.find? (·.id == id) with
  | none => (slot, .pending)
  | some reservation =>
    if slot.closed then
      ((slot.unqueue id).giveBackAssigned reservation, .failed .poolClosed)
    else if reservation.assigned then
      let slot := slot.unqueue id
      ({ slot with granted := slot.granted ++ [id] }, .granted)
    else (slot, .pending)

/-- Gives up a reservation in the queue. -/
def abandon (slot : Slot) (id : Nat) : Slot :=
  match slot.queue.find? (·.id == id) with
  | none => slot
  | some reservation => (slot.unqueue id).giveBackAssigned reservation

/-- Gives back the permit of a reservation that never got a connection. -/
def returnPermit (slot : Slot) (id : Nat) : Slot :=
  if slot.granted.contains id then { slot with granted := slot.granted.erase id }.giveBack else slot

/-- Turns a permit into the lease of a connection. -/
def lease (slot : Slot) (id connection : Nat) : Slot :=
  { slot with
    granted := slot.granted.erase id
    live := slot.live ++ [connection]
    active := slot.active + 1 }

/-- Ends the lease of a connection. -/
def endLease (slot : Slot) (connection : Nat) : Slot :=
  if slot.live.contains connection then
    { slot with live := slot.live.erase connection, active := slot.active - 1 }.giveBack
  else slot

/-- Refuses further reservations.  The live connections are to be invalidated. -/
def close (slot : Slot) : Slot × List Nat :=
  ({ slot with closed := true }, slot.live)

end Slot

end Courier
