import Courier.WebSocket.Opening

/-!
# Upgrades and proxies

An upgrade never goes through a proxy: a stream does the same, whatever proxy its client is
configured with.
-/

namespace Courier.WebSocket.Opening

variable {η : Type}

/-- The same stream of a client that has another proxy. -/
def withProxy (opening : Opening η) (proxy : Option Proxy) : Opening η :=
  { opening with client := { opening.client with config := { opening.client.config with proxy } } }

variable (opening : Opening η) (proxy : Option Proxy)

theorem fail_withProxy (upgrade : Upgrade η) (error : ClientError) :
    (opening.withProxy proxy).fail upgrade error =
      (opening.fail upgrade error).withProxy proxy := by
  rw [fail, fail]
  cases upgrade.exceptionHandler <;> rfl

theorem succeed_withProxy (upgrade : Upgrade η) (connection : Nat) :
    (opening.withProxy proxy).succeed upgrade connection =
      (opening.succeed upgrade connection).withProxy proxy := by
  rw [succeed, succeed]
  cases upgrade.endHandler <;> rfl

theorem shake_withProxy (upgrade : Upgrade η) (key : String) (connection : Nat) :
    (opening.withProxy proxy).shake upgrade key connection =
      (opening.shake upgrade key connection).withProxy proxy := by
  rw [shake, shake]
  have same : (opening.withProxy proxy).stream = opening.stream := rfl
  rw [same]
  cases opening.stream.options.handshake upgrade.destination key with
  | error error =>
      exact fail_withProxy ((opening.note (.shook connection)).note (.released connection)) proxy
        upgrade error
  | ok handshake => rfl

theorem retry_withProxy (upgrade : Upgrade η) :
    (opening.withProxy proxy).retry upgrade = (opening.retry upgrade).withProxy proxy := by
  rw [retry, retry]
  have same : (opening.withProxy proxy).client.closed = opening.client.closed := rfl
  rw [same]
  split
  · exact fail_withProxy opening proxy upgrade _
  · rfl

theorem judge_withProxy (upgrade : Upgrade η) (key : String) (arrival : Arrival) :
    (opening.withProxy proxy).judge upgrade key arrival =
      (opening.judge upgrade key arrival).withProxy proxy := by
  rw [judge, judge]
  cases upgradeTurn upgrade.retries arrival.endpoint arrival.valid with
  | handshake => exact shake_withProxy (opening.note (.received arrival)) proxy upgrade key _
  | retry =>
      exact retry_withProxy ((opening.note (.received arrival)).note _) proxy upgrade
  | fail error =>
      exact fail_withProxy ((opening.note (.received arrival)).note _) proxy upgrade error

theorem hear_withProxy (upgrade : Upgrade η) (connection : Nat)
    (outcome : Except WebSocketError Unit) :
    (opening.withProxy proxy).hear upgrade connection outcome =
      (opening.hear upgrade connection outcome).withProxy proxy := by
  cases outcome with
  | error error => exact fail_withProxy (opening.note _) proxy upgrade _
  | ok _ => exact succeed_withProxy opening proxy upgrade connection

theorem turn_withProxy (outside : Outside) :
    (opening.withProxy proxy).turn outside = (opening.turn outside).withProxy proxy := by
  have same : (opening.withProxy proxy).upgrade = opening.upgrade := rfl
  rw [turn.eq_def, turn.eq_def, same]
  cases opening.upgrade with
  | none => rfl
  | some upgrade =>
      dsimp only
      cases upgrade.stage with
      | acquiring =>
          cases outside.answer with
          | error error => exact fail_withProxy opening proxy upgrade _
          | ok arrival => exact judge_withProxy opening proxy upgrade _ arrival
      | handshaking connection => exact hear_withProxy opening proxy upgrade connection _
      | opened connection => rfl
      | failed error => rfl
      | dropped => rfl

theorem stopContext_withProxy :
    (opening.withProxy proxy).stopContext = opening.stopContext.withProxy proxy := by
  have same : (opening.withProxy proxy).upgrade = opening.upgrade := rfl
  rw [stopContext, stopContext, same]
  cases opening.upgrade with
  | none => rfl
  | some upgrade =>
      dsimp only
      cases upgrade.stage <;> rfl

theorem subscribe_withProxy (handler : η) (accepted : Bool) :
    ((opening.withProxy proxy).subscribe handler accepted).1 =
      (opening.subscribe handler accepted).1.withProxy proxy := by
  have same : (opening.withProxy proxy).stream.subscribe (opening.withProxy proxy).client =
      opening.stream.subscribe opening.client := rfl
  rw [subscribe, subscribe, same]
  cases opening.stream.subscribe opening.client with
  | mk stream subscription =>
      cases subscription with
      | ignored => rfl
      | failed error => rfl
      | started destination =>
          cases accepted with
          | true => rfl
          | false =>
              exact stopContext_withProxy
                (({ opening with stream := stream.takeHandlers.1 }.note (.started handler)).ask
                  { destination
                    handler
                    exceptionHandler := stream.exceptionHandler
                    endHandler := stream.endHandler }) proxy

theorem step_withProxy (action : Action η) :
    (opening.withProxy proxy).step action = (opening.step action).withProxy proxy := by
  cases action with
  | setExceptionHandler handler => rfl
  | setEndHandler handler => rfl
  | subscribe handler accepted => exact subscribe_withProxy opening proxy handler accepted
  | closeClient => rfl
  | stopContext => exact stopContext_withProxy opening proxy
  | turn outside => exact turn_withProxy opening proxy outside

/-- An upgrade goes on in the same way whatever proxy its client has. -/
theorem run_withProxy (actions : List (Action η)) :
    (opening.withProxy proxy).run actions = (opening.run actions).withProxy proxy := by
  induction actions generalizing opening with
  | nil => rfl
  | cons action actions induction =>
      rw [run, List.foldl_cons, step_withProxy]
      exact induction (opening.step action)

end Courier.WebSocket.Opening
