import Courier.Proofs.Opening.Account

/-!
# Sound streams

The record of a stream is held against its upgrade, whatever the upgrade learns in its turns and
whatever others do between them.
-/

namespace Courier.WebSocket.Opening

variable {η : Type} {client : Client} {options : Options} {opening : Opening η}
  {upgrade : Upgrade η} {history : List (Event η)} {event : Event η}

theorem isOpen_cons (own_event : event.isOwn = true) :
    IsOpen client (event :: history) ↔ IsOpen client history := by
  have other : .closedClient ≠ event := by
    rintro rfl
    cases own_event
  simp [IsOpen, other]

/-! ## The invariant -/

/-- What the record says about a stream, whatever becomes of its upgrade. -/
structure Recorded (client : Client) (options : Options) (opening : Opening η) : Prop where
  grounded : Grounded (Event.Follows client options) opening.history
  config_eq : opening.client.config = client.config
  options_eq : opening.stream.options = options
  open_iff : opening.client.closed = false ↔ IsOpen client opening.history

/-- Whether the upgrade has started, and what the record says about that. -/
inductive Stands (client : Client) (options : Options) (opening : Opening η) : Prop where
  | idle (upgrade_eq : opening.upgrade = none) (own_eq : own opening.history = [])
      (exceptionHandler_eq :
        opening.stream.exceptionHandler = lastExceptionHandler opening.history)
      (endHandler_eq : opening.stream.endHandler = lastEndHandler opening.history)
  | engaged (upgrade : Upgrade η) (upgrade_eq : opening.upgrade = some upgrade)
      (subscribed : opening.stream.subscribed = true)
      (destination_eq : upgrade.destination = options.destination client.config)
      (place : upgrade.Place client options opening.history)

structure Sound (client : Client) (options : Options) (opening : Opening η) : Prop where
  recorded : opening.Recorded client options
  stands : opening.Stands client options

theorem sound_start (client : Client) (options : Options) :
    (start client options : Opening η).Sound client options where
  recorded := ⟨trivial, rfl, rfl, by simp [start, IsOpen]⟩
  stands := .idle rfl rfl rfl rfl

theorem Recorded.note (recorded : opening.Recorded client options) (event : Event η)
    (follows : event.Follows client options opening.history) (own_event : event.isOwn = true) :
    (opening.note event).Recorded client options where
  grounded := ⟨follows, recorded.grounded⟩
  config_eq := recorded.config_eq
  options_eq := recorded.options_eq
  open_iff := recorded.open_iff.trans (isOpen_cons own_event).symm

theorem Recorded.setUpgrade (recorded : opening.Recorded client options) (upgrade : Upgrade η) :
    (opening.setUpgrade upgrade).Recorded client options :=
  { recorded with }

/-! ## The end of an upgrade -/

/-- An upgrade has started and accounts for what it has done. -/
structure Engaged (client : Client) (options : Options) (upgrade : Upgrade η) (held : List Nat)
    (outcomes : List Stage) (calls : List (Event η)) (opening : Opening η) : Prop where
  recorded : opening.Recorded client options
  subscribed : opening.stream.subscribed = true
  destination_eq : upgrade.destination = options.destination client.config
  accounts : upgrade.Accounts held outcomes calls opening.history

/-- An upgrade gives the connection of its handshake back. -/
theorem Engaged.release {connection : Nat} {rest : List (Event η)}
    (engaged : opening.Engaged client options upgrade [connection] [] [])
    (own_eq : own opening.history = .shook connection :: rest) :
    (opening.note (.released connection)).Engaged client options upgrade [] [] [] ∧
      own (.released connection :: opening.history) =
        .released connection :: .shook connection :: rest := by
  obtain ⟨recorded, subscribed, destination_eq, accounts⟩ := engaged
  have released := recorded.note (.released connection) (.inr ⟨_, own_eq⟩) rfl
  exact ⟨⟨released, subscribed, destination_eq, accounts.released⟩,
    congrArg (Event.released connection :: ·) own_eq⟩

/-- An upgrade that has ended calls its last handler, if there is one. -/
theorem Engaged.call {called : List (Event η)}
    (engaged : opening.Engaged client options upgrade upgrade.held [upgrade.stage] called)
    (last : Option (Event η))
    (ended : upgrade.outcomes = [upgrade.stage]) (calls_eq : upgrade.calls = last.toList ++ called)
    (follows : ∀ event ∈ last, event.isCall = true ∧ event.isOwn = true ∧
      event.Follows client options opening.history) :
    ((opening.call last).setUpgrade upgrade).Sound client options := by
  obtain ⟨recorded, subscribed, destination_eq, accounts⟩ := engaged
  cases last with
  | none =>
      have accounted : upgrade.Accounted opening.history := by
        rw [Upgrade.Accounted, ended, calls_eq]
        exact accounts
      exact ⟨recorded.setUpgrade upgrade,
        .engaged upgrade rfl subscribed destination_eq (.finished ended accounted)⟩
  | some event =>
      obtain ⟨call, own_event, follows⟩ := follows event rfl
      have accounted : upgrade.Accounted (event :: opening.history) := by
        rw [Upgrade.Accounted, ended, calls_eq]
        exact accounts.called call
      exact ⟨(recorded.note event follows own_event).setUpgrade upgrade,
        .engaged upgrade rfl subscribed destination_eq (.finished ended accounted)⟩

theorem Engaged.fail (engaged : opening.Engaged client options upgrade [] [] [])
    {error : ClientError} (fails : Fails client options opening.history error) :
    (opening.fail upgrade error).Sound client options := by
  have failed : (opening.note (.failed error)).Engaged client options
      { upgrade with stage := .failed error } [] [.failed error] [] :=
    ⟨engaged.recorded.note _ fails rfl, engaged.subscribed, engaged.destination_eq,
      engaged.accounts.finish rfl⟩
  refine failed.call _ rfl (List.append_nil _).symm ?_
  intro event called
  obtain ⟨handler, handler_eq, rfl⟩ := Option.map_eq_some_iff.mp called
  have captured := failed.accounts.kept.exceptionHandler_eq.symm.trans handler_eq
  exact ⟨rfl, rfl, ⟨_, rfl⟩, captured⟩

theorem Engaged.succeed {connection : Nat} {rest : List (Event η)}
    (engaged : opening.Engaged client options upgrade [connection] [] [])
    (own_eq : own opening.history = .shook connection :: rest)
    (said : Sayable client options) :
    (opening.succeed upgrade connection).Sound client options := by
  have succeeded :=
    engaged.recorded.note (.succeeded connection) ⟨⟨rest, own_eq⟩, said⟩ rfl
  have handed : ((opening.note (.succeeded connection)).note
      (.handed upgrade.handler connection)).Engaged client options
        { upgrade with stage := .opened connection } [connection] [.opened connection]
        [.handed upgrade.handler connection] :=
    ⟨succeeded.note _ ⟨⟨_, rfl⟩, engaged.accounts.kept.starters_eq⟩ rfl, engaged.subscribed,
      engaged.destination_eq, (engaged.accounts.finish rfl).called rfl⟩
  refine handed.call _ rfl rfl ?_
  intro event called
  obtain ⟨handler, handler_eq, rfl⟩ := Option.map_eq_some_iff.mp called
  have captured := handed.accounts.kept.endHandler_eq.symm.trans handler_eq
  exact ⟨rfl, rfl, ⟨_, _, _, rfl⟩, captured⟩

/-- The context of an upgrade that holds nothing any more is stopped. -/
theorem Engaged.drop (engaged : opening.Engaged client options upgrade [] [] [])
    (follows : Event.dropped.Follows client options opening.history) :
    ((opening.note .dropped).setUpgrade { upgrade with stage := .dropped }).Sound client
      options := by
  have dropped : (opening.note .dropped).Engaged client options { upgrade with stage := .dropped }
      [] [.dropped] [] :=
    ⟨engaged.recorded.note _ follows rfl, engaged.subscribed, engaged.destination_eq,
      engaged.accounts.finish rfl⟩
  exact dropped.call none rfl rfl nofun

/-! ## Turns -/

theorem Recorded.ask (recorded : opening.Recorded client options)
    (subscribed : opening.stream.subscribed = true)
    (destination_eq : upgrade.destination = options.destination client.config)
    (follows : (Event.asked .webSocket upgrade.destination.endpoint).Follows client options
      opening.history)
    (asking : Upgrade.Asking upgrade.destination.endpoint upgrade.handler upgrade.retries
      (.asked .webSocket upgrade.destination.endpoint :: own opening.history))
    (accounts : upgrade.Accounts [] [] []
      (.asked .webSocket upgrade.destination.endpoint :: opening.history)) :
    (opening.ask upgrade).Sound client options := by
  have kept := accounts.kept.setStage .acquiring
  refine ⟨(recorded.note _ follows rfl).setUpgrade _, .engaged _ rfl subscribed destination_eq
    (.acquiring rfl ?_ { accounts with kept })⟩
  rw [← destination_eq]
  exact asking

/-- A valid connection goes to the handshake. -/
theorem Engaged.shake {arrival : Arrival} {rest : List (Event η)}
    (engaged : opening.Engaged client options upgrade [arrival.connection] [] [])
    (own_eq : own opening.history = .received arrival :: rest) (valid : arrival.valid = true)
    (key : String) : (opening.shake upgrade key arrival.connection).Sound client options := by
  obtain ⟨recorded, subscribed, destination_eq, accounts⟩ := engaged
  have shook := recorded.note (.shook arrival.connection) ⟨_, _, own_eq, valid, rfl⟩ rfl
  have accounts_shook := accounts.shook arrival.connection
  rw [Opening.shake]
  cases said : opening.stream.options.handshake upgrade.destination key with
  | ok handshake =>
      rw [recorded.options_eq, destination_eq] at said
      exact ⟨shook.setUpgrade _, .engaged _ rfl subscribed destination_eq
        (.handshaking _ rfl ⟨key, handshake, said⟩ _ rfl
          { accounts_shook with kept := accounts_shook.kept.setStage _ })⟩
  | error error =>
      rw [recorded.options_eq, destination_eq] at said
      have shaking : Engaged client options upgrade [arrival.connection] [] [] _ :=
        ⟨shook, subscribed, destination_eq, accounts_shook⟩
      obtain ⟨released, own_released⟩ := shaking.release rfl
      exact released.fail (.unsayable own_released said)

/-- An upgrade has given its first connection back, which was invalid. -/
theorem Engaged.retry {arrival : Arrival}
    (engaged : opening.Engaged client options upgrade [] [] [])
    (own_eq : own opening.history =
      [.released arrival.connection, .received arrival,
        .asked .webSocket upgrade.destination.endpoint, .started upgrade.handler])
    (invalid : arrival.valid = false) (first : upgrade.retries = 0) :
    (opening.retry upgrade).Sound client options := by
  have open_iff := engaged.recorded.open_iff
  rw [Opening.retry]
  cases closed : opening.client.closed with
  | true =>
      rw [if_pos rfl]
      refine engaged.fail (.closed own_eq invalid fun is_open => ?_)
      exact Bool.noConfusion (closed.symm.trans (open_iff.mpr is_open))
  | false =>
      rw [if_neg (by simp)]
      obtain ⟨recorded, subscribed, destination_eq, kept, outcomes_eq, calls_eq, connections_eq⟩ :=
        engaged
      refine recorded.ask subscribed destination_eq
        ⟨rfl, congrArg Destination.endpoint destination_eq, open_iff.mp closed,
          .inr ⟨arrival, _, _, own_eq, invalid⟩⟩ ?_
        ⟨⟨kept.starters_eq, congrArg (· + 1) kept.asked_eq, ?_, kept.exceptionHandler_eq,
          kept.endHandler_eq⟩, outcomes_eq, calls_eq, connections_eq⟩
      · rw [own_eq, first]
        exact .again invalid
      · rw [first]
        exact Nat.le_refl _

theorem Engaged.judge (engaged : opening.Engaged client options upgrade [] [] [])
    (asking : Upgrade.Asking upgrade.destination.endpoint upgrade.handler upgrade.retries
      (own opening.history)) (key : String) (arrival : Arrival) :
    (opening.judge upgrade key arrival).Sound client options := by
  obtain ⟨recorded, subscribed, destination_eq, accounts⟩ := engaged
  obtain ⟨rest, last_asked⟩ := asking.last_asked
  have received := recorded.note (.received arrival) ⟨_, _, rest, last_asked⟩ rfl
  have accounts_received := accounts.received arrival
  rw [Opening.judge, upgradeTurn]
  by_cases valid : arrival.valid = true
  · rw [if_pos valid]
    have engaged : Engaged client options upgrade [arrival.connection] [] [] _ :=
      ⟨received, subscribed, destination_eq, accounts_received⟩
    exact engaged.shake rfl valid key
  · have invalid : arrival.valid = false := Bool.eq_false_iff.mpr valid
    have released := received.note (.released arrival.connection)
      (.inl ⟨_, _, rfl, invalid, rfl⟩) rfl
    have engaged : Engaged client options upgrade [] [] [] _ :=
      ⟨released, subscribed, destination_eq, accounts_received.released⟩
    have own_released : own (.released arrival.connection :: .received arrival ::
        opening.history) = .released arrival.connection :: .received arrival ::
          own opening.history := rfl
    rw [if_neg valid]
    by_cases many : upgrade.retries ≥ maxRetries
    · obtain ⟨connection, before, own_eq⟩ := asking.of_le many
      rw [if_pos many]
      exact engaged.fail (.invalidated (own_eq ▸ own_released) invalid)
    · obtain ⟨first, own_eq⟩ := asking.of_lt (Nat.lt_of_not_le many)
      rw [if_neg many]
      exact engaged.retry (own_eq ▸ own_released) invalid first

/-- The peer answers the handshake over a connection. -/
theorem Engaged.hear {connection : Nat} {rest : List (Event η)}
    (engaged : opening.Engaged client options upgrade [connection] [] [])
    (own_eq : own opening.history = .shook connection :: rest)
    (said : Sayable client options) (outcome : Except WebSocketError Unit) :
    (opening.hear upgrade connection outcome).Sound client options := by
  cases outcome with
  | ok => exact engaged.succeed own_eq said
  | error error =>
      obtain ⟨released, own_released⟩ := engaged.release own_eq
      exact released.fail (.refused own_released said error)

theorem Upgrade.over_cases (ended : upgrade.outcomes = [upgrade.stage]) :
    (∃ connection, upgrade.stage = .opened connection) ∨ (∃ error, upgrade.stage = .failed error) ∨
      upgrade.stage = .dropped := by
  rw [outcomes] at ended
  cases stage : upgrade.stage with
  | acquiring =>
      rw [stage] at ended
      cases ended
  | handshaking connection =>
      rw [stage] at ended
      cases ended
  | opened connection => exact .inl ⟨connection, rfl⟩
  | failed error => exact .inr (.inl ⟨error, rfl⟩)
  | dropped => exact .inr (.inr rfl)

/-- An upgrade that is over has no turns. -/
theorem turn_of_over (upgrade_eq : opening.upgrade = some upgrade)
    (ended : upgrade.outcomes = [upgrade.stage]) (outside : Outside) :
    opening.turn outside = opening := by
  obtain ⟨connection, stage⟩ | ⟨error, stage⟩ | stage := upgrade.over_cases ended
  all_goals simp only [turn, upgrade_eq, stage]

/-- An upgrade that is over does not miss its context. -/
theorem stopContext_of_over (upgrade_eq : opening.upgrade = some upgrade)
    (ended : upgrade.outcomes = [upgrade.stage]) : opening.stopContext = opening := by
  obtain ⟨connection, stage⟩ | ⟨error, stage⟩ | stage := upgrade.over_cases ended
  all_goals simp only [stopContext, upgrade_eq, stage]

theorem Sound.turn (sound : opening.Sound client options) (outside : Outside) :
    (opening.turn outside).Sound client options := by
  have recorded := sound.recorded
  cases sound.stands with
  | idle upgrade_eq =>
      rw [Opening.turn, upgrade_eq]
      exact sound
  | engaged upgrade upgrade_eq subscribed destination_eq place =>
      cases place with
      | acquiring stage asking accounts =>
          have engaged : opening.Engaged client options upgrade [] [] [] :=
            ⟨recorded, subscribed, destination_eq, accounts⟩
          rw [← destination_eq] at asking
          rw [Opening.turn, upgrade_eq]
          dsimp only
          rw [stage]
          cases outside.answer with
          | ok arrival => exact engaged.judge asking outside.key arrival
          | error error =>
              obtain ⟨rest, last_asked⟩ := asking.last_asked
              exact engaged.fail (.unanswered last_asked error)
      | handshaking connection stage said rest own_eq accounts =>
          have engaged : opening.Engaged client options upgrade [connection] [] [] :=
            ⟨recorded, subscribed, destination_eq, accounts⟩
          rw [Opening.turn, upgrade_eq]
          dsimp only
          rw [stage]
          exact engaged.hear own_eq said outside.outcome
      | finished ended accounted =>
          rw [turn_of_over upgrade_eq ended]
          exact sound

theorem Sound.stopContext (sound : opening.Sound client options) :
    opening.stopContext.Sound client options := by
  have recorded := sound.recorded
  cases sound.stands with
  | idle upgrade_eq =>
      rw [Opening.stopContext, upgrade_eq]
      exact sound
  | engaged upgrade upgrade_eq subscribed destination_eq place =>
      cases place with
      | acquiring stage asking accounts =>
          have engaged : opening.Engaged client options upgrade [] [] [] :=
            ⟨recorded, subscribed, destination_eq, accounts⟩
          obtain ⟨rest, last_asked⟩ := asking.last_asked
          rw [Opening.stopContext, upgrade_eq]
          dsimp only
          rw [stage]
          exact engaged.drop (.inl ⟨_, _, rest, last_asked⟩)
      | handshaking connection stage said rest own_eq accounts =>
          have engaged : opening.Engaged client options upgrade [connection] [] [] :=
            ⟨recorded, subscribed, destination_eq, accounts⟩
          obtain ⟨released, own_released⟩ := engaged.release own_eq
          rw [Opening.stopContext, upgrade_eq]
          dsimp only
          rw [stage]
          exact released.drop (.inr ⟨connection, rest, own_released⟩)
      | finished ended accounted =>
          rw [stopContext_of_over upgrade_eq ended]
          exact sound

/-! ## What others do -/

/-- What others do leaves an upgrade where it is, and an idle stream idle. -/
theorem Stands.surround (stands : opening.Stands client options) (other : event.isOwn = false)
    (now : Client) {stream : UpgradeStream η}
    (subscribed_eq : stream.subscribed = opening.stream.subscribed)
    (exceptionHandler_eq :
      opening.stream.exceptionHandler = lastExceptionHandler opening.history →
        stream.exceptionHandler = lastExceptionHandler (event :: opening.history))
    (endHandler_eq : opening.stream.endHandler = lastEndHandler opening.history →
      stream.endHandler = lastEndHandler (event :: opening.history)) :
    { opening.note event with client := now, stream }.Stands client options := by
  cases stands with
  | idle upgrade_eq own_eq exception_eq end_eq =>
      have same : own (event :: opening.history) = own opening.history :=
        List.filter_cons_of_neg (by simp [other])
      exact .idle upgrade_eq (same.trans own_eq) (exceptionHandler_eq exception_eq)
        (endHandler_eq end_eq)
  | engaged upgrade upgrade_eq subscribed destination_eq place =>
      exact .engaged upgrade upgrade_eq (subscribed_eq.trans subscribed) destination_eq
        (place.surround other)

theorem Sound.setExceptionHandler (sound : opening.Sound client options) (handler : η) :
    (opening.setExceptionHandler handler).Sound client options where
  recorded :=
    { sound.recorded with
      grounded := ⟨trivial, sound.recorded.grounded⟩
      open_iff := by
        simpa [Opening.setExceptionHandler, Opening.note, IsOpen] using sound.recorded.open_iff }
  stands := sound.stands.surround rfl opening.client rfl (fun _ => rfl) id

theorem Sound.setEndHandler (sound : opening.Sound client options) (handler : η) :
    (opening.setEndHandler handler).Sound client options where
  recorded :=
    { sound.recorded with
      grounded := ⟨trivial, sound.recorded.grounded⟩
      open_iff := by
        simpa [Opening.setEndHandler, Opening.note, IsOpen] using sound.recorded.open_iff }
  stands := sound.stands.surround rfl opening.client rfl id (fun _ => rfl)

theorem Sound.closeClient (sound : opening.Sound client options) :
    opening.closeClient.Sound client options where
  recorded :=
    { sound.recorded with
      grounded := ⟨trivial, sound.recorded.grounded⟩
      open_iff := by simp [Opening.closeClient, Opening.note, IsOpen] }
  stands := sound.stands.surround rfl _ rfl id id

/-! ## Subscription -/

/-- What the caller is told who sets the first success handler. -/
def verdict (client : Client) (options : Options) : Except ClientError Unit :=
  match UpgradeStream.checkArguments (options.destination client.config) options.uri with
  | .error error => .error error
  | .ok () => if client.closed then .error .clientClosed else .ok ()

/-- The verdict decides what becomes of a first subscription. -/
theorem verdict_cases {stream : UpgradeStream η} (first : stream.subscribed = false)
    (client : Client) :
    (∃ error, verdict client stream.options = .error error ∧
        stream.subscribe client = ({ stream with subscribed := true }, .failed error)) ∨
      client.closed = false ∧ verdict client stream.options = .ok () ∧
        stream.subscribe client = ({ stream with subscribed := true },
          .started (stream.options.destination client.config)) := by
  have unsubscribed : ¬stream.subscribed = true := by simp [first]
  rw [verdict, UpgradeStream.subscribe, if_neg unsubscribed]
  dsimp only
  cases UpgradeStream.checkArguments (stream.options.destination client.config)
      stream.options.uri with
  | error error => exact .inl ⟨error, rfl, rfl⟩
  | ok =>
      cases client.closed with
      | true => exact .inl ⟨.clientClosed, rfl, rfl⟩
      | false => exact .inr ⟨rfl, rfl, rfl⟩

/-- The first success handler starts an upgrade if the arguments are right and the client is open;
from then on the stream ignores them. -/
theorem subscribe_cases (stream : UpgradeStream η) (client : Client) :
    (stream.subscribed = true ∧ stream.subscribe client = (stream, .ignored)) ∨
      stream.subscribed = false ∧
        ((∃ error,
            stream.subscribe client = ({ stream with subscribed := true }, .failed error)) ∨
          client.closed = false ∧
            stream.subscribe client = ({ stream with subscribed := true },
              .started (stream.options.destination client.config))) := by
  cases subscribed : stream.subscribed with
  | true =>
      refine .inl ⟨rfl, ?_⟩
      rw [UpgradeStream.subscribe, if_pos subscribed]
  | false =>
      refine .inr ⟨rfl, ?_⟩
      obtain ⟨error, _, failed⟩ | ⟨is_open, _, started⟩ := verdict_cases subscribed client
      · exact .inl ⟨error, failed⟩
      · exact .inr ⟨is_open, started⟩

theorem Sound.subscribe (sound : opening.Sound client options) (handler : η) (accepted : Bool) :
    (opening.subscribe handler accepted).1.Sound client options := by
  have ⟨recorded, stands⟩ := sound
  rw [Opening.subscribe]
  obtain ⟨_, same⟩ | ⟨first, ⟨error, failed⟩ | ⟨is_open, started⟩⟩ :=
    subscribe_cases opening.stream opening.client
  · rw [same]
    exact sound
  · rw [failed]
    cases stands with
    | idle upgrade_eq own_eq exceptionHandler_eq endHandler_eq =>
        exact ⟨{ recorded with }, .idle upgrade_eq own_eq exceptionHandler_eq endHandler_eq⟩
    | engaged upgrade upgrade_eq subscribed => exact Bool.noConfusion (first.symm.trans subscribed)
  · rw [started]
    cases stands with
    | engaged upgrade upgrade_eq subscribed => exact Bool.noConfusion (first.symm.trans subscribed)
    | idle upgrade_eq own_eq exceptionHandler_eq endHandler_eq =>
        have is_open := recorded.open_iff.mp is_open
        have noted := recorded.note (.started handler) ⟨own_eq, is_open⟩ rfl
        have own_started : own (.started handler :: opening.history) = [.started handler] :=
          congrArg (Event.started handler :: ·) own_eq
        have destination_eq : opening.stream.options.destination opening.client.config =
            options.destination client.config := by
          rw [recorded.options_eq, recorded.config_eq]
        let upgrade : Upgrade η :=
          { destination := opening.stream.options.destination opening.client.config
            handler
            exceptionHandler := opening.stream.exceptionHandler
            endHandler := opening.stream.endHandler }
        let stream : UpgradeStream η :=
          { opening.stream with subscribed := true, exceptionHandler := none, endHandler := none }
        have begun : (({ opening with stream }.note (.started handler)).ask upgrade).Sound client
            options := by
          refine Recorded.ask { noted with } rfl destination_eq
            ⟨rfl, congrArg Destination.endpoint destination_eq, (isOpen_cons rfl).mpr is_open,
              .inl ⟨handler, own_started⟩⟩ ?_
            (upgrade.accounts_start own_eq rfl exceptionHandler_eq endHandler_eq _)
          exact own_started ▸ .first
        cases accepted with
        | true => exact begun
        | false => exact begun.stopContext

theorem Sound.step (sound : opening.Sound client options) (action : Action η) :
    (opening.step action).Sound client options := by
  cases action with
  | setExceptionHandler handler => exact sound.setExceptionHandler handler
  | setEndHandler handler => exact sound.setEndHandler handler
  | subscribe handler accepted => exact sound.subscribe handler accepted
  | closeClient => exact sound.closeClient
  | stopContext => exact sound.stopContext
  | turn outside => exact sound.turn outside

theorem Sound.run (sound : opening.Sound client options) (actions : List (Action η)) :
    (opening.run actions).Sound client options := by
  induction actions generalizing opening with
  | nil => exact sound
  | cons action rest induction => exact induction (sound.step action)

end Courier.WebSocket.Opening
