import Courier.Proofs.Opening.Course

/-!
# Who starts an upgrade

The first success handler of a stream decides once and for all: either it starts the upgrade, or it
is refused and no upgrade will ever start.  A stream whose first handler was refused is subscribed
all the same, and takes every later handler without a word.
-/

namespace Courier.WebSocket.Opening

variable {η : Type} {client : Client} {options : Options} {opening : Opening η}
  {upgrade next : Upgrade η} {told : List (η × Except ClientError Unit)} {handler : η}
  {accepted : Bool} {error : ClientError}

/-- The success handler that an action sets, if it sets one, and what the caller is told. -/
def attempt (opening : Opening η) : Action η → List (η × Except ClientError Unit)
  | .subscribe handler accepted => [(handler, (opening.subscribe handler accepted).2)]
  | _ => []

/-- The success handlers that actions set, one after the other, and what their callers are told. -/
def attempts (opening : Opening η) : List (Action η) → List (η × Except ClientError Unit)
  | [] => []
  | action :: rest => opening.attempt action ++ (opening.step action).attempts rest

/-! ## One success handler -/

/-- A stream that is subscribed ignores success handlers. -/
theorem subscribe_again (subscribed : opening.stream.subscribed = true) (handler : η)
    (accepted : Bool) : opening.subscribe handler accepted = (opening, .ok ()) := by
  rw [subscribe, UpgradeStream.subscribe, if_pos subscribed]

/-- A first success handler that is refused changes nothing but the subscription. -/
theorem subscribe_refused_first (first : opening.stream.subscribed = false)
    (refused : verdict opening.client opening.stream.options = .error error) (handler : η)
    (accepted : Bool) :
    opening.subscribe handler accepted =
      ({ opening with stream := { opening.stream with subscribed := true } }, .error error) := by
  obtain ⟨cause, said, failed⟩ | ⟨_, said, _⟩ := verdict_cases first opening.client
  · obtain rfl := Except.error.inj (refused.symm.trans said)
    rw [subscribe, failed]
  · cases refused.symm.trans said

/-- A first success handler that is not refused starts the upgrade. -/
theorem subscribe_starts (first : opening.stream.subscribed = false)
    (starts : verdict opening.client opening.stream.options = .ok ()) (handler : η)
    (accepted : Bool) :
    (opening.subscribe handler accepted).2 = .ok () ∧
      (opening.subscribe handler accepted).1.stream.subscribed = true ∧
      (opening.subscribe handler accepted).1.upgrade.map (·.handler) = some handler := by
  obtain ⟨cause, said, _⟩ | ⟨_, _, started⟩ := verdict_cases first opening.client
  · cases starts.symm.trans said
  · rw [subscribe, started]
    cases accepted with
    | true => exact ⟨rfl, rfl, rfl⟩
    | false => exact ⟨rfl, rfl, rfl⟩

/-! ## Everything else -/

theorem call_stream (opening : Opening η) (event : Option (Event η)) :
    (opening.call event).stream = opening.stream := by
  cases event <;> rfl

theorem fail_stream (opening : Opening η) (upgrade : Upgrade η) (error : ClientError) :
    (opening.fail upgrade error).stream = opening.stream :=
  call_stream _ _

theorem succeed_stream (opening : Opening η) (upgrade : Upgrade η) (connection : Nat) :
    (opening.succeed upgrade connection).stream = opening.stream :=
  call_stream _ _

theorem judge_stream (opening : Opening η) (upgrade : Upgrade η) (key : String)
    (arrival : Arrival) : (opening.judge upgrade key arrival).stream = opening.stream := by
  rw [judge]
  split
  · rw [shake]
    split
    · exact fail_stream _ _ _
    · rfl
  · rw [retry]
    split
    · exact fail_stream _ _ _
    · rfl
  · exact fail_stream _ _ _

theorem turn_stream (opening : Opening η) (outside : Outside) :
    (opening.turn outside).stream = opening.stream := by
  rw [turn]
  split
  · rfl
  · split
    · exact fail_stream _ _ _
    · exact judge_stream _ _ _ _
    · cases outside.outcome with
      | error error => exact fail_stream _ _ _
      | ok => exact succeed_stream _ _ _
    · rfl

theorem stopContext_stream (opening : Opening η) :
    opening.stopContext.stream = opening.stream := by
  rw [stopContext]
  split
  · rfl
  · dsimp only
    split <;> rfl

theorem Upgrade.Advances.handler_eq (advances : upgrade.Advances next) :
    next.handler = upgrade.handler := by
  cases advances <;> rfl

theorem turn_handler (opening : Opening η) (outside : Outside) :
    (opening.turn outside).upgrade.map (·.handler) = opening.upgrade.map (·.handler) := by
  cases upgrade_eq : opening.upgrade with
  | none => rw [turn, upgrade_eq, upgrade_eq]
  | some upgrade =>
      obtain ⟨next, next_eq, advances⟩ := turn_advances upgrade_eq outside
      rw [next_eq, Option.map_some, Option.map_some, advances.handler_eq]

theorem stopContext_handler (opening : Opening η) :
    opening.stopContext.upgrade.map (·.handler) = opening.upgrade.map (·.handler) := by
  cases upgrade_eq : opening.upgrade with
  | none => rw [stopContext, upgrade_eq, upgrade_eq]
  | some upgrade =>
      rw [stopContext, upgrade_eq]
      dsimp only
      split <;> simp [setUpgrade, note, upgrade_eq]

/-! ## Every run -/

/-- The first success handler has decided whether the upgrade starts, and later ones were accepted
without a word. -/
structure Decided (told : List (η × Except ClientError Unit)) (opening : Opening η) : Prop where
  subscribed_iff : opening.stream.subscribed = true ↔ told ≠ []
  handler_eq : opening.upgrade.map (·.handler) = (told.head?.filter (·.2.toBool)).map (·.1)
  later_ok : ∀ call ∈ told.tail, call.2 = .ok ()

/-- What sets no success handler changes nothing about that. -/
theorem Decided.surround {after : Opening η} (decided : opening.Decided told)
    (subscribed_eq : after.stream.subscribed = opening.stream.subscribed)
    (handler_eq : after.upgrade.map (·.handler) = opening.upgrade.map (·.handler)) :
    after.Decided (told ++ []) := by
  rw [List.append_nil]
  exact ⟨by rw [subscribed_eq, decided.subscribed_iff], handler_eq.trans decided.handler_eq,
    decided.later_ok⟩

theorem Decided.subscribe (decided : opening.Decided told) (handler : η) (accepted : Bool) :
    (opening.subscribe handler accepted).1.Decided
      (told ++ [(handler, (opening.subscribe handler accepted).2)]) := by
  cases subscribed : opening.stream.subscribed with
  | true =>
      obtain ⟨first, rest, rfl⟩ :=
        List.exists_cons_of_ne_nil (decided.subscribed_iff.mp subscribed)
      rw [subscribe_again subscribed]
      refine ⟨by simp [subscribed], decided.handler_eq, ?_⟩
      intro call mem
      rcases List.mem_append.mp mem with earlier | now
      · exact decided.later_ok call earlier
      · rw [List.mem_singleton.mp now]
  | false =>
      obtain rfl : told = [] := by
        have nothing := mt decided.subscribed_iff.mpr (by simp [subscribed])
        simpa using nothing
      cases said : verdict opening.client opening.stream.options with
      | error error =>
          rw [subscribe_refused_first subscribed said]
          exact ⟨by simp, decided.handler_eq, by simp⟩
      | ok =>
          obtain ⟨reply, subscribed_now, handler_now⟩ :=
            subscribe_starts subscribed said handler accepted
          rw [reply]
          exact ⟨by simp [subscribed_now], handler_now, by simp⟩

theorem Decided.step (decided : opening.Decided told) (action : Action η) :
    (opening.step action).Decided (told ++ opening.attempt action) := by
  cases action with
  | subscribe handler accepted => exact decided.subscribe handler accepted
  | setExceptionHandler | setEndHandler | closeClient => exact decided.surround rfl rfl
  | stopContext =>
      exact decided.surround (congrArg _ opening.stopContext_stream) opening.stopContext_handler
  | turn outside =>
      exact decided.surround (congrArg _ (opening.turn_stream outside))
        (opening.turn_handler outside)

theorem Decided.run (decided : opening.Decided told) (actions : List (Action η)) :
    (opening.run actions).Decided (told ++ opening.attempts actions) := by
  induction actions generalizing opening told with
  | nil =>
      rw [attempts, List.append_nil]
      exact decided
  | cons action rest induction =>
      rw [attempts, ← List.append_assoc]
      exact induction (decided.step action)

theorem decided_start (client : Client) (options : Options) :
    (start client options : Opening η).Decided [] where
  subscribed_iff := by simp [start]
  handler_eq := rfl
  later_ok := by simp

/-- The law that a stream is subscribed once a success handler was accepted holds unless the only
one was refused. -/
theorem Decided.law_iff (decided : opening.Decided told) :
    (opening.stream.subscribed = true ↔ ∃ call ∈ told, call.2 = .ok ()) ↔
      ∀ handler error, told ≠ [(handler, .error error)] := by
  have later_ok := decided.later_ok
  rw [decided.subscribed_iff]
  rcases told with _ | ⟨⟨handler, reply⟩, _ | ⟨second, rest⟩⟩
  · simp
  · cases reply with
    | error error => simp
    | ok => simp
  · have second_ok := later_ok second List.mem_cons_self
    simp [second_ok]

/-- A success handler that is accepted now has an upgrade unless the first one was refused. -/
theorem Decided.upgrade_iff (decided : opening.Decided told) (handler : η) (accepted : Bool)
    (now : (opening.subscribe handler accepted).2 = .ok ()) :
    (opening.subscribe handler accepted).1.upgrade.isSome = true ↔
      ∀ first ∈ told.head?, first.2 = .ok () := by
  have after := (decided.subscribe handler accepted).handler_eq
  rw [now] at after
  rw [← Option.isSome_map, after]
  rcases told with _ | ⟨⟨first, reply⟩, rest⟩
  · simp [Except.toBool]
  · cases reply with
    | error error => simp [Except.toBool]
    | ok => simp [Except.toBool]

/-- A stream is subscribed once a success handler was set, accepted or refused.  The first one
starts the upgrade unless it is refused, which changes nothing but the subscription; all later ones
are accepted and ignored.  So a stream that is subscribed has had a handler accepted unless its only
one was refused, and an accepted one has an upgrade unless the first one was refused. -/
theorem run_subscribes_once (client : Client) (options : Options) (actions : List (Action η)) :
    let opening := (start client options).run actions
    let told := (start client options).attempts actions
    (opening.stream.subscribed = true ↔ told ≠ []) ∧
      opening.upgrade.map (·.handler) = (told.head?.filter (·.2.toBool)).map (·.1) ∧
      ((opening.stream.subscribed = true ↔ ∃ call ∈ told, call.2 = .ok ()) ↔
        ∀ handler error, told ≠ [(handler, .error error)]) ∧
      ∀ handler accepted,
        (told = [] → (opening.subscribe handler accepted).2 = verdict opening.client options) ∧
          (told ≠ [] → opening.subscribe handler accepted = (opening, .ok ())) ∧
          (∀ error, (opening.subscribe handler accepted).2 = .error error →
            (opening.subscribe handler accepted).1 =
              { opening with stream := { opening.stream with subscribed := true } }) ∧
          ((opening.subscribe handler accepted).2 = .ok () →
            ((opening.subscribe handler accepted).1.upgrade.isSome = true ↔
              ∀ first ∈ told.head?, first.2 = .ok ())) := by
  intro opening told
  have sound : opening.Sound client options := (sound_start client options).run actions
  have decided : opening.Decided told := (decided_start client options).run actions
  refine ⟨decided.subscribed_iff, decided.handler_eq, decided.law_iff, ?_⟩
  intro handler accepted
  have options_eq := sound.recorded.options_eq
  cases subscribed : opening.stream.subscribed with
  | true =>
      have again := subscribe_again subscribed handler accepted
      have some_told := decided.subscribed_iff.mp subscribed
      refine ⟨fun none_told => absurd none_told some_told, fun _ => again, ?_,
        decided.upgrade_iff handler accepted⟩
      intro error refused
      rw [again] at refused
      cases refused
  | false =>
      have none_told : ¬told ≠ [] := mt decided.subscribed_iff.mpr (by simp [subscribed])
      refine ⟨fun _ => ?_, fun some_told => absurd some_told none_told, ?_,
        decided.upgrade_iff handler accepted⟩
      · rw [← options_eq]
        cases said : verdict opening.client opening.stream.options with
        | error error => rw [subscribe_refused_first subscribed said]
        | ok => exact (subscribe_starts subscribed said handler accepted).1
      · intro error refused
        cases said : verdict opening.client opening.stream.options with
        | error error => rw [subscribe_refused_first subscribed said]
        | ok =>
            rw [(subscribe_starts subscribed said handler accepted).1] at refused
            cases refused

/-- A stream without a URI refuses its first handler, and accepts a second one that will never be
called. -/
theorem second_handler_ignored :
    let opening := (start { config := {} } { uri := "" } : Opening Nat).run [.subscribe 0 true]
    opening.stream.subscribed = true ∧ opening.upgrade = none ∧
      opening.subscribe 1 true = (opening, .ok ()) := by
  intro opening
  obtain ⟨subscribed_iff, _, _, next⟩ :=
    run_subscribes_once { config := {} } { uri := "" } [.subscribe 0 true]
  exact ⟨subscribed_iff.mpr (by simp [attempts, attempt]), rfl,
    (next 1 true).2.1 (by simp [attempts, attempt])⟩

/-- A handler that is refused leaves its trace, and one that is accepted may have no upgrade. -/
theorem refused_handler_remembered :
    (¬∀ (client : Client) (options : Options) (actions : List (Action Nat)) (handler : Nat)
        (accepted : Bool) (error : ClientError),
      let opening := (start client options).run actions
      (opening.subscribe handler accepted).2 = .error error →
        (opening.subscribe handler accepted).1 = opening) ∧
      ¬∀ (client : Client) (options : Options) (actions : List (Action Nat)) (handler : Nat)
        (accepted : Bool),
      let opening := (start client options).run actions
      (opening.subscribe handler accepted).2 = .ok () →
        (opening.subscribe handler accepted).1.upgrade.isSome = true := by
  constructor
  · intro claimed
    have unchanged := claimed { config := {} } { uri := "" } [] 0 true _ rfl
    have subscribed := congrArg (fun opening : Opening Nat => opening.stream.subscribed) unchanged
    exact Bool.noConfusion subscribed
  · intro claimed
    have started := claimed { config := {} } { uri := "" } [.subscribe 0 true] 1 true rfl
    exact Bool.noConfusion started

end Courier.WebSocket.Opening
