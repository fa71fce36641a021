import Courier.Pool.Slot

/-!
# Trials of a slot

A trial plays a list of steps against a slot and reports what can be seen after each.  After a
step every unfinished reservation is polled once, oldest first.
-/

namespace Courier

namespace SlotTrial

/-- What one step does. -/
inductive Action where
  /-- Starts a reservation, which does nothing before it is polled. -/
  | reserve (name : String)
  /-- Turns the permit of a reservation into the lease of a new connection. -/
  | lease (name : String)
  /-- Ends the lease and gives back the permit of a name. -/
  | release (name : String)
  /-- Gives up an unfinished reservation. -/
  | abandon (name : String)
  /-- Closes the slot. -/
  | close
  | nothing
deriving DecidableEq, Repr

/-- One step of a trial. -/
structure Step where
  action : Action
  /-- Whether the reservations are polled afterwards. -/
  poll : Bool := true
deriving DecidableEq, Repr

/-- What can be seen after a step. -/
structure Report where
  /-- Whether the step had something to act on. -/
  ok : Bool
  /-- Open connections. -/
  active : Nat
  /-- Waiting reservations. -/
  waiting : Nat
  /-- Reservations that finished, with their error if they failed. -/
  resolved : List (String × Option ConnectError)
  /-- Every connection that ever had a lease, and whether it is valid. -/
  valid : List (String × Bool)
deriving Repr

/-- A reservation that has not finished. -/
structure Pending where
  name : String
  /-- Its identity in the slot. -/
  id : Nat
  polled : Bool := false
deriving DecidableEq, Repr

/-- A connection of a trial. -/
structure Leased where
  name : String
  /-- Its identity in the slot. -/
  id : Nat
  valid : Bool := true
deriving DecidableEq, Repr

/-- A trial under way. -/
structure State where
  /-- The slot on trial. -/
  slot : Slot
  /-- Unfinished reservations, oldest first. -/
  pending : List Pending := []
  /-- Names of permits, with the reservations they were granted to. -/
  permits : List (String × Nat) := []
  /-- Names of leases, with their connections. -/
  leases : List (String × Nat) := []
  connections : List Leased := []
  /-- Next unused identity. -/
  next : Nat := 0
deriving Repr

/-- What a name stands for. -/
def lookup (names : List (String × Nat)) (name : String) : Option Nat :=
  (names.find? (·.1 == name)).map (·.2)

/-- All names but one. -/
def without (names : List (String × Nat)) (name : String) : List (String × Nat) :=
  names.filter (·.1 != name)

/-- Gives back the permit of a name. -/
def State.dropPermit (state : State) (name : String) : State :=
  match lookup state.permits name with
  | none => state
  | some id =>
    { state with permits := without state.permits name, slot := state.slot.returnPermit id }

/-- Ends the lease of a name. -/
def State.dropLease (state : State) (name : String) : State :=
  match lookup state.leases name with
  | none => state
  | some id =>
    { state with leases := without state.leases name, slot := state.slot.endLease id }

/-- Gives up the reservation of a name. -/
def State.dropPending (state : State) (name : String) : State :=
  match state.pending.find? (·.name == name) with
  | none => state
  | some found =>
    { state with
      pending := state.pending.filter (·.id != found.id)
      slot := state.slot.abandon found.id }

/-- Does what a step says; tells whether there was something to act on. -/
def State.act (state : State) : Action → State × Bool
  | .reserve name =>
    ({ state with pending := state.pending ++ [⟨name, state.next, false⟩],
                  next := state.next + 1 }, true)
  | .lease name =>
    match lookup state.permits name with
    | none => (state, false)
    | some id =>
      let connection := state.next
      let state := { state with
        permits := without state.permits name
        slot := state.slot.lease id connection
        next := state.next + 1 }
      let state := state.dropLease name
      ({ state with
          leases := state.leases ++ [(name, connection)]
          connections := state.connections.filter (·.name != name) ++ [⟨name, connection, true⟩] },
        true)
  | .release name =>
    let held := (lookup state.permits name).isSome || (lookup state.leases name).isSome
    ((state.dropLease name).dropPermit name, held)
  | .abandon name => (state.dropPending name, state.pending.any (·.name == name))
  | .close =>
    let (slot, live) := state.slot.close
    ({ state with
        slot
        connections := state.connections.map fun leased =>
          { leased with valid := leased.valid && !live.contains leased.id } }, true)
  | .nothing => (state, false)

/-- Polls one reservation. -/
def State.pollOne (state : State) (pending : Pending) : State × List (String × Option ConnectError) :=
  let (slot, answer) :=
    if pending.polled then state.slot.poll pending.id else state.slot.reserve pending.id
  let others := state.pending.filter (·.id != pending.id)
  match answer with
  | .granted =>
    let state := { state with slot, pending := others }.dropPermit pending.name
    ({ state with permits := state.permits ++ [(pending.name, pending.id)] },
      [(pending.name, none)])
  | .failed error => ({ state with slot, pending := others }, [(pending.name, some error)])
  | .pending =>
    let mark (other : Pending) : Pending :=
      if other.id == pending.id then { other with polled := true } else other
    ({ state with slot, pending := state.pending.map mark }, [])

/-- Polls every unfinished reservation once, oldest first. -/
def State.pollAll (state : State) : State × List (String × Option ConnectError) :=
  state.pending.foldl (fun (state, resolved) pending =>
    let (state, more) := state.pollOne pending
    (state, resolved ++ more)) (state, [])

/-- Plays one step. -/
def State.play (state : State) (step : Step) : State × Report :=
  let (state, ok) := state.act step.action
  let (state, resolved) := if step.poll then state.pollAll else (state, [])
  (state, {
    ok
    active := state.slot.active
    waiting := state.slot.waiting
    resolved
    valid := state.connections.map fun leased => (leased.name, leased.valid) })

/-- The reports of a list of steps. -/
def State.run : State → List Step → List Report
  | _, [] => []
  | state, step :: steps =>
    let (state, report) := state.play step
    report :: state.run steps

/-- The reports of a trial of a new slot. -/
def run (endpoint : Endpoint) (maxConnections maxWaiters : Nat) (steps : List Step) :
    List Report :=
  State.run { slot := .create endpoint maxConnections maxWaiters } steps

end SlotTrial

end Courier
