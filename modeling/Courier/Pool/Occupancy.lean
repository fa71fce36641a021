import Courier.Pool.Slot

/-!
# A slot and its users

A slot with everybody who has something of it: reservations that were started, permits that were
granted and leases that last.  Users act in any order, and each knows from the answers of the slot
what it has; the numbers that the slot keeps are not looked at.
-/

namespace Courier

/-- A slot and what its users have of it. -/
structure Occupancy where
  slot : Slot
  /-- Reservations that were started and never polled. -/
  started : List Nat := []
  /-- Reservations that were queued, and have neither finished nor been given up. -/
  queued : List Nat := []
  /-- Reservations that were granted a permit, which was neither leased nor dropped. -/
  holding : List Nat := []
  /-- Connections whose leases have not ended. -/
  leased : List Nat := []
  /-- Next unused identity of a reservation. -/
  next : Nat := 0

namespace Occupancy

/-- A new slot, which nobody uses. -/
def create (endpoint : Endpoint) (maxConnections maxWaiters : Nat) : Occupancy where
  slot := .create endpoint maxConnections maxWaiters

/-- What a user does next. -/
inductive Action where
  /-- A reservation is started, which does nothing before it is polled. -/
  | start
  /-- An unfinished reservation is polled. -/
  | poll (reservation : Nat)
  /-- An unfinished reservation is given up. -/
  | abandon (reservation : Nat)
  /-- The permit of a reservation becomes the lease of a connection without one. -/
  | lease (reservation connection : Nat)
  /-- The permit of a reservation is dropped. -/
  | dropPermit (reservation : Nat)
  /-- The lease of a connection is dropped. -/
  | endLease (connection : Nat)
  /-- The slot is closed. -/
  | close
deriving DecidableEq, Repr

/-- Takes note of the answer to a poll of a reservation. -/
def afterPoll (occupancy : Occupancy) (id : Nat) (slot : Slot) (answer : Slot.Answer) :
    Occupancy :=
  let occupancy := { occupancy with
    slot
    started := occupancy.started.erase id
    queued := occupancy.queued.erase id }
  match answer with
  | .granted => { occupancy with holding := id :: occupancy.holding }
  | .pending => { occupancy with queued := id :: occupancy.queued }
  | .failed _ => occupancy

/-- The answer to a poll of a reservation: the first poll asks for a permit. -/
def pollSlot (occupancy : Occupancy) (id : Nat) : Slot × Slot.Answer :=
  if id ∈ occupancy.started then occupancy.slot.reserve id else occupancy.slot.poll id

/-- What an action makes of a slot and its users.  Nobody acts on what he does not have, and a
connection has one lease at a time. -/
def step (occupancy : Occupancy) : Action → Occupancy
  | .start =>
    { occupancy with
      started := occupancy.next :: occupancy.started
      next := occupancy.next + 1 }
  | .poll id =>
    if id ∈ occupancy.started ∨ id ∈ occupancy.queued then
      occupancy.afterPoll id (occupancy.pollSlot id).1 (occupancy.pollSlot id).2
    else occupancy
  | .abandon id =>
    if id ∈ occupancy.started then
      { occupancy with started := occupancy.started.erase id }
    else if id ∈ occupancy.queued then
      { occupancy with slot := occupancy.slot.abandon id, queued := occupancy.queued.erase id }
    else occupancy
  | .lease id connection =>
    if id ∈ occupancy.holding ∧ connection ∉ occupancy.leased then
      { occupancy with
        slot := occupancy.slot.lease id connection
        holding := occupancy.holding.erase id
        leased := connection :: occupancy.leased }
    else occupancy
  | .dropPermit id =>
    if id ∈ occupancy.holding then
      { occupancy with
        slot := occupancy.slot.returnPermit id
        holding := occupancy.holding.erase id }
    else occupancy
  | .endLease connection =>
    if connection ∈ occupancy.leased then
      { occupancy with
        slot := occupancy.slot.endLease connection
        leased := occupancy.leased.erase connection }
    else occupancy
  | .close => { occupancy with slot := occupancy.slot.close.1 }

/-- What actions make of a slot and its users, one after the other. -/
def run (occupancy : Occupancy) (actions : List Action) : Occupancy := actions.foldl step occupancy

/-- The numbers that a slot keeps. -/
inductive Counter where
  /-- Permits that nobody holds. -/
  | free
  /-- Reservations counted as waiting. -/
  | waiting
  /-- Connections counted as open. -/
  | active
deriving DecidableEq, Repr

def Counter.read (slot : Slot) : Counter → Nat
  | .free => slot.free
  | .waiting => slot.waiting
  | .active => slot.active

/-- Whether an action takes one off a counter: a first poll that is granted a permit takes a free
one, a reservation that leaves the queue waits no more, and a lease that ends closes a
connection. -/
def TakesFrom (occupancy : Occupancy) : Action → Counter → Prop
  | .poll id, .free => id ∈ occupancy.started ∧ (occupancy.slot.reserve id).2 = .granted
  | .poll id, .waiting =>
    id ∉ occupancy.started ∧ id ∈ occupancy.queued ∧ (occupancy.slot.poll id).2 ≠ .pending
  | .abandon id, .waiting => id ∉ occupancy.started ∧ id ∈ occupancy.queued
  | .endLease connection, .active => connection ∈ occupancy.leased
  | _, _ => False

end Occupancy

end Courier
