import Courier.Proofs.Opening.Record

/-!
# What an upgrade accounts for

The record of a stream shows which connections its upgrade holds, in which way the upgrade has
ended and which handlers it has called.
-/

namespace Courier.WebSocket.Opening

variable {η : Type} {client : Client} {options : Options} {upgrade : Upgrade η}
  {history : List (Event η)} {event : Event η} {endpoint : Endpoint}

theorem beforeStart_cons (starts_not : event.started? = none) :
    beforeStart (event :: history) = beforeStart history := by
  cases event with
  | started handler => cases starts_not
  | _ => rfl

namespace Upgrade

/-- What the record says about an upgrade that keeps being true when it ends. -/
structure Kept (upgrade : Upgrade η) (history : List (Event η)) : Prop where
  starters_eq : starters history = [upgrade.handler]
  asked_eq : (asked history).length = upgrade.retries + 1
  retries_le : upgrade.retries ≤ maxRetries
  exceptionHandler_eq : upgrade.exceptionHandler = lastExceptionHandler (beforeStart history)
  endHandler_eq : upgrade.endHandler = lastEndHandler (beforeStart history)

/-- The record shows which connections an upgrade holds, in which ways it has ended and which
handlers it has called.  Every connection that has come is held or was given back. -/
structure Accounts (upgrade : Upgrade η) (held : List Nat) (outcomes : List Stage)
    (calls : List (Event η)) (history : List (Event η)) : Prop where
  kept : upgrade.Kept history
  outcomes_eq : Opening.outcomes history = outcomes
  calls_eq : Opening.calls history = calls
  connections_eq : received history = held ++ released history

/-- The record accounts for all that an upgrade has done: it has ended in at most one way, and has
called the handlers that this way calls for, and no others. -/
def Accounted (upgrade : Upgrade η) : List (Event η) → Prop :=
  upgrade.Accounts upgrade.held upgrade.outcomes upgrade.calls

/-- What an upgrade has done that waits for a connection, after a number of retries. -/
inductive Asking (endpoint : Endpoint) (handler : η) : Nat → List (Event η) → Prop where
  | first : Asking endpoint handler 0 [.asked .webSocket endpoint, .started handler]
  | again {arrival : Arrival} (invalid : arrival.valid = false) :
      Asking endpoint handler 1
        [.asked .webSocket endpoint, .released arrival.connection, .received arrival,
          .asked .webSocket endpoint, .started handler]

theorem Asking.last_asked {handler : η} {retries : Nat} {done : List (Event η)}
    (asking : Asking endpoint handler retries done) :
    ∃ rest, done = .asked .webSocket endpoint :: rest := by
  cases asking with
  | first => exact ⟨_, rfl⟩
  | again invalid => exact ⟨_, rfl⟩

theorem Asking.of_lt {handler : η} {retries : Nat} {done : List (Event η)}
    (asking : Asking endpoint handler retries done) (few : retries < maxRetries) :
    retries = 0 ∧ done = [.asked .webSocket endpoint, .started handler] := by
  cases asking with
  | first => exact ⟨rfl, rfl⟩
  | again invalid => exact absurd few (Nat.lt_irrefl _)

theorem Asking.of_le {handler : η} {retries : Nat} {done : List (Event η)}
    (asking : Asking endpoint handler retries done) (many : maxRetries ≤ retries) :
    ∃ connection rest,
      done = .asked .webSocket endpoint :: .released connection :: rest := by
  cases asking with
  | first => exact absurd many (Nat.not_succ_le_zero 0)
  | again invalid => exact ⟨_, _, rfl⟩

/-- Where an upgrade stands, and what its record says about that. -/
inductive Place (client : Client) (options : Options) (upgrade : Upgrade η)
    (history : List (Event η)) : Prop where
  | acquiring (stage : upgrade.stage = .acquiring)
      (asking : Asking (options.destination client.config).endpoint upgrade.handler
        upgrade.retries (own history))
      (accounts : upgrade.Accounts [] [] [] history)
  | handshaking (connection : Nat) (stage : upgrade.stage = .handshaking connection)
      (said : Sayable client options) (rest : List (Event η))
      (own_eq : own history = .shook connection :: rest)
      (accounts : upgrade.Accounts [connection] [] [] history)
  | finished (ended : upgrade.outcomes = [upgrade.stage]) (accounted : upgrade.Accounted history)

theorem Kept.cons (kept : upgrade.Kept history) (starts_not : event.started? = none)
    (asks_not : event.asked? = none) : upgrade.Kept (event :: history) where
  starters_eq := (List.filterMap_cons_none starts_not).trans kept.starters_eq
  asked_eq := by
    rw [asked, List.filterMap_cons_none asks_not]
    exact kept.asked_eq
  retries_le := kept.retries_le
  exceptionHandler_eq := by
    rw [beforeStart_cons starts_not]
    exact kept.exceptionHandler_eq
  endHandler_eq := by
    rw [beforeStart_cons starts_not]
    exact kept.endHandler_eq

theorem Kept.setStage (kept : upgrade.Kept history) (stage : Stage) :
    { upgrade with stage }.Kept history :=
  { kept with }

variable {held : List Nat} {outcomes : List Stage} {calls : List (Event η)}

theorem Accounts.received (accounts : upgrade.Accounts held outcomes calls history)
    (arrival : Arrival) :
    upgrade.Accounts (arrival.connection :: held) outcomes calls
      (.received arrival :: history) where
  kept := accounts.kept.cons rfl rfl
  outcomes_eq := accounts.outcomes_eq
  calls_eq := accounts.calls_eq
  connections_eq := congrArg (arrival.connection :: ·) accounts.connections_eq

theorem Accounts.released {connection : Nat}
    (accounts : upgrade.Accounts [connection] outcomes calls history) :
    upgrade.Accounts [] outcomes calls (.released connection :: history) where
  kept := accounts.kept.cons rfl rfl
  outcomes_eq := accounts.outcomes_eq
  calls_eq := accounts.calls_eq
  connections_eq := accounts.connections_eq

theorem Accounts.shook (accounts : upgrade.Accounts held outcomes calls history)
    (connection : Nat) : upgrade.Accounts held outcomes calls (.shook connection :: history) where
  kept := accounts.kept.cons rfl rfl
  outcomes_eq := accounts.outcomes_eq
  calls_eq := accounts.calls_eq
  connections_eq := accounts.connections_eq

theorem Accounts.called (accounts : upgrade.Accounts held outcomes calls history)
    (call : event.isCall = true) :
    upgrade.Accounts held outcomes (event :: calls) (event :: history) := by
  obtain ⟨kept, outcomes_eq, calls_eq, connections_eq⟩ := accounts
  have one_more : Opening.calls (event :: history) = event :: calls :=
    (List.filter_cons_of_pos call).trans (congrArg (event :: ·) calls_eq)
  cases event with
  | handed handler connection =>
      exact ⟨kept.cons rfl rfl, outcomes_eq, one_more, connections_eq⟩
  | ended handler => exact ⟨kept.cons rfl rfl, outcomes_eq, one_more, connections_eq⟩
  | told handler error => exact ⟨kept.cons rfl rfl, outcomes_eq, one_more, connections_eq⟩
  | _ => cases call

/-- An upgrade ends in some way, and its stage says so. -/
theorem Accounts.finish (accounts : upgrade.Accounts held [] calls history) {ending : Stage}
    (outcome : event.outcome? = some ending) :
    { upgrade with stage := ending }.Accounts held [ending] calls (event :: history) := by
  obtain ⟨kept, outcomes_eq, calls_eq, connections_eq⟩ := accounts
  have one_more : Opening.outcomes (event :: history) = [ending] :=
    (List.filterMap_cons_some outcome).trans (congrArg (ending :: ·) outcomes_eq)
  cases event with
  | succeeded connection =>
      exact ⟨(kept.setStage _).cons rfl rfl, one_more, calls_eq, connections_eq⟩
  | failed error => exact ⟨(kept.setStage _).cons rfl rfl, one_more, calls_eq, connections_eq⟩
  | dropped => exact ⟨(kept.setStage _).cons rfl rfl, one_more, calls_eq, connections_eq⟩
  | _ => cases outcome

/-- What others do is nothing that an upgrade accounts for. -/
theorem Accounts.surround (accounts : upgrade.Accounts held outcomes calls history)
    (other : event.isOwn = false) :
    upgrade.Accounts held outcomes calls (event :: history) := by
  obtain ⟨kept, outcomes_eq, calls_eq, connections_eq⟩ := accounts
  cases event with
  | setExceptionHandler handler =>
      exact ⟨kept.cons rfl rfl, outcomes_eq, calls_eq, connections_eq⟩
  | setEndHandler handler => exact ⟨kept.cons rfl rfl, outcomes_eq, calls_eq, connections_eq⟩
  | closedClient => exact ⟨kept.cons rfl rfl, outcomes_eq, calls_eq, connections_eq⟩
  | _ => cases other

theorem Place.accounted (place : upgrade.Place client options history) :
    upgrade.Accounted history := by
  cases place with
  | finished ended accounted => exact accounted
  | acquiring stage asking accounts =>
      rw [Accounted, Upgrade.held, Upgrade.outcomes, Upgrade.calls, stage]
      exact accounts
  | handshaking connection stage said rest own_eq accounts =>
      rw [Accounted, Upgrade.held, Upgrade.outcomes, Upgrade.calls, stage]
      exact accounts

/-- What others do leaves an upgrade where it is. -/
theorem Place.surround (place : upgrade.Place client options history)
    (other : event.isOwn = false) :
    upgrade.Place client options (event :: history) := by
  have same : own (event :: history) = own history := List.filter_cons_of_neg (by simp [other])
  cases place with
  | acquiring stage asking accounts =>
      exact .acquiring stage (same ▸ asking) (accounts.surround other)
  | handshaking connection stage said rest own_eq accounts =>
      exact .handshaking connection stage said rest (same.trans own_eq) (accounts.surround other)
  | finished ended accounted => exact .finished ended (accounted.surround other)

end Upgrade

theorem Event.unaccounted (other : event.isOwn = false) :
    event.started? = none ∧ event.asked? = none ∧ event.received? = none ∧
      event.released? = none ∧ event.outcome? = none ∧ event.isCall = false := by
  cases event with
  | setExceptionHandler handler => exact ⟨rfl, rfl, rfl, rfl, rfl, rfl⟩
  | setEndHandler handler => exact ⟨rfl, rfl, rfl, rfl, rfl, rfl⟩
  | closedClient => exact ⟨rfl, rfl, rfl, rfl, rfl, rfl⟩
  | _ => cases other

/-- An upgrade that starts has nothing to account for but its own start. -/
theorem Upgrade.accounts_start (own_eq : own history = []) (fresh : upgrade.retries = 0)
    (exceptionHandler_eq : upgrade.exceptionHandler = lastExceptionHandler history)
    (endHandler_eq : upgrade.endHandler = lastEndHandler history) (endpoint : Endpoint) :
    upgrade.Accounts [] [] []
      (.asked .webSocket endpoint :: .started upgrade.handler :: history) := by
  have other : ∀ event ∈ history, event.isOwn = false := by
    simpa [own] using own_eq
  have unaccounted : ∀ event ∈ history, _ := fun event event_mem =>
    Event.unaccounted (other event event_mem)
  have starters_eq : starters history = [] :=
    List.filterMap_eq_nil_iff.mpr fun event event_mem => (unaccounted event event_mem).1
  have asked_eq : asked history = [] :=
    List.filterMap_eq_nil_iff.mpr fun event event_mem => (unaccounted event event_mem).2.1
  have received_eq : received history = [] :=
    List.filterMap_eq_nil_iff.mpr fun event event_mem => (unaccounted event event_mem).2.2.1
  have released_eq : released history = [] :=
    List.filterMap_eq_nil_iff.mpr fun event event_mem => (unaccounted event event_mem).2.2.2.1
  have outcomes_eq : Opening.outcomes history = [] :=
    List.filterMap_eq_nil_iff.mpr fun event event_mem => (unaccounted event event_mem).2.2.2.2.1
  have calls_eq : Opening.calls history = [] := by
    simpa [Opening.calls] using fun event event_mem => (unaccounted event event_mem).2.2.2.2.2
  exact {
    kept :=
      { starters_eq := congrArg (upgrade.handler :: ·) starters_eq
        asked_eq := by
          rw [fresh]
          exact congrArg (fun asked => (endpoint :: asked).length) asked_eq
        retries_le := fresh ▸ Nat.zero_le _
        exceptionHandler_eq := exceptionHandler_eq
        endHandler_eq := endHandler_eq }
    outcomes_eq := outcomes_eq
    calls_eq := calls_eq
    connections_eq := received_eq.trans released_eq.symm }

end Courier.WebSocket.Opening
