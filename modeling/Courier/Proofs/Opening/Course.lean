import Courier.Proofs.Opening.Sound

/-!
# The course of an upgrade

An upgrade asks its pool at most twice, ends in exactly one way and calls the handlers that this
way calls for; it is over after three turns, and does nothing more then.
-/

namespace Courier.WebSocket.Opening

variable {η : Type} {client : Client} {options : Options} {opening : Opening η}
  {upgrade next : Upgrade η}

/-! ## An upgrade that is over -/

/-- What a turn makes of an upgrade. -/
inductive Upgrade.Advances (upgrade : Upgrade η) : Upgrade η → Prop where
  | idle (ended : upgrade.outcomes = [upgrade.stage]) : Advances upgrade upgrade
  | replaces (stage : upgrade.stage = .acquiring) :
      Advances upgrade { upgrade with retries := upgrade.retries + 1, stage := .acquiring }
  | shakes (stage : upgrade.stage = .acquiring) (connection : Nat) :
      Advances upgrade { upgrade with stage := .handshaking connection }
  | opens (stage : upgrade.outcomes = []) (connection : Nat) :
      Advances upgrade { upgrade with stage := .opened connection }
  | fails (stage : upgrade.outcomes = []) (error : ClientError) :
      Advances upgrade { upgrade with stage := .failed error }

theorem shake_advances (stage : upgrade.stage = .acquiring) (opening : Opening η) (key : String)
    (connection : Nat) :
    ∃ next, (opening.shake upgrade key connection).upgrade = some next ∧
      upgrade.Advances next := by
  rw [shake]
  split
  · exact ⟨_, rfl, .fails (by rw [Upgrade.outcomes, stage]) _⟩
  · exact ⟨_, rfl, .shakes stage connection⟩

theorem retry_advances (stage : upgrade.stage = .acquiring) (opening : Opening η) :
    ∃ next, (opening.retry upgrade).upgrade = some next ∧ upgrade.Advances next := by
  rw [retry]
  split
  · exact ⟨_, rfl, .fails (by rw [Upgrade.outcomes, stage]) _⟩
  · exact ⟨_, rfl, .replaces stage⟩

theorem turn_advances (upgrade_eq : opening.upgrade = some upgrade) (outside : Outside) :
    ∃ next, (opening.turn outside).upgrade = some next ∧ upgrade.Advances next := by
  cases stage : upgrade.stage with
  | acquiring =>
      have going : upgrade.outcomes = [] := by rw [Upgrade.outcomes, stage]
      rw [turn, upgrade_eq]
      dsimp only
      rw [stage]
      cases outside.answer with
      | error error => exact ⟨_, rfl, .fails going _⟩
      | ok arrival =>
          dsimp only
          rw [judge]
          split
          · exact shake_advances stage _ _ _
          · exact retry_advances stage _
          · exact ⟨_, rfl, .fails going _⟩
  | handshaking connection =>
      have going : upgrade.outcomes = [] := by rw [Upgrade.outcomes, stage]
      rw [turn, upgrade_eq]
      dsimp only
      rw [stage]
      cases outside.outcome with
      | error error => exact ⟨_, rfl, .fails going _⟩
      | ok => exact ⟨_, rfl, .opens going connection⟩
  | opened connection =>
      have ended : upgrade.outcomes = [upgrade.stage] := by rw [Upgrade.outcomes, stage]
      rw [turn_of_over upgrade_eq ended]
      exact ⟨upgrade, upgrade_eq, .idle ended⟩
  | failed error =>
      have ended : upgrade.outcomes = [upgrade.stage] := by rw [Upgrade.outcomes, stage]
      rw [turn_of_over upgrade_eq ended]
      exact ⟨upgrade, upgrade_eq, .idle ended⟩
  | dropped =>
      have ended : upgrade.outcomes = [upgrade.stage] := by rw [Upgrade.outcomes, stage]
      rw [turn_of_over upgrade_eq ended]
      exact ⟨upgrade, upgrade_eq, .idle ended⟩

namespace Upgrade

/-- A turn that finds an upgrade under way brings it nearer to its end. -/
theorem Advances.left_le (advances : upgrade.Advances next)
    (retries_le : upgrade.retries ≤ maxRetries) : next.left ≤ upgrade.left - 1 := by
  cases advances with
  | idle ended =>
      obtain ⟨connection, stage⟩ | ⟨error, stage⟩ | stage := upgrade.over_cases ended
      all_goals simp [left, stage]
  | replaces stage =>
      simp only [left, stage]
      omega
  | shakes stage connection =>
      have retries_le : upgrade.retries ≤ 1 := retries_le
      simp only [left, stage]
      omega
  | opens stage connection => exact Nat.zero_le _
  | fails stage error => exact Nat.zero_le _

theorem Advances.spared (advances : upgrade.Advances next) (spared : upgrade.stage ≠ .dropped) :
    next.stage ≠ .dropped := by
  cases advances with
  | idle ended => exact spared
  | replaces stage => exact nofun
  | shakes stage connection => exact nofun
  | opens stage connection => exact nofun
  | fails stage error => exact nofun

end Upgrade

theorem Sound.accounted (sound : opening.Sound client options)
    (upgrade_eq : opening.upgrade = some upgrade) : upgrade.Accounted opening.history := by
  cases sound.stands with
  | idle unstarted => exact nomatch unstarted.symm.trans upgrade_eq
  | engaged found found_eq subscribed destination_eq place =>
      obtain rfl : found = upgrade := Option.some.inj (found_eq.symm.trans upgrade_eq)
      exact place.accounted

/-- An upgrade that has started goes on, and is not replaced. -/
theorem Sound.step_upgrade (sound : opening.Sound client options)
    (upgrade_eq : opening.upgrade = some upgrade) (action : Action η) :
    ∃ next, (opening.step action).upgrade = some next ∧
      next.left ≤ upgrade.left - [action].countP Action.isTurn ∧
        (action.sparesContext = true → upgrade.stage ≠ .dropped → next.stage ≠ .dropped) := by
  have kept := (sound.accounted upgrade_eq).kept
  cases action with
  | setExceptionHandler handler => exact ⟨upgrade, upgrade_eq, Nat.le_refl _, fun _ => id⟩
  | setEndHandler handler => exact ⟨upgrade, upgrade_eq, Nat.le_refl _, fun _ => id⟩
  | closeClient => exact ⟨upgrade, upgrade_eq, Nat.le_refl _, fun _ => id⟩
  | turn outside =>
      obtain ⟨next, next_eq, advances⟩ := turn_advances upgrade_eq outside
      exact ⟨next, next_eq, advances.left_le kept.retries_le, fun _ => advances.spared⟩
  | subscribe handler accepted =>
      cases sound.stands with
      | idle unstarted => cases unstarted.symm.trans upgrade_eq
      | engaged found found_eq subscribed =>
          rw [Opening.step, Opening.subscribe, UpgradeStream.subscribe, if_pos subscribed]
          exact ⟨upgrade, upgrade_eq, Nat.le_refl _, fun _ => id⟩
  | stopContext =>
      rw [Opening.step]
      cases stage : upgrade.stage with
      | acquiring =>
          simp only [Opening.stopContext, upgrade_eq, stage]
          exact ⟨_, rfl, Nat.zero_le _, fun spares => Bool.noConfusion spares⟩
      | handshaking connection =>
          simp only [Opening.stopContext, upgrade_eq, stage]
          exact ⟨_, rfl, Nat.zero_le _, fun spares => Bool.noConfusion spares⟩
      | opened connection | failed error | dropped =>
          rw [stopContext_of_over upgrade_eq (by rw [Upgrade.outcomes, stage])]
          exact ⟨upgrade, upgrade_eq, Nat.le_refl _, fun spares => Bool.noConfusion spares⟩

theorem Sound.run_left (sound : opening.Sound client options)
    (upgrade_eq : opening.upgrade = some upgrade) (actions : List (Action η)) :
    ∃ next, (opening.run actions).upgrade = some next ∧
      next.left ≤ upgrade.left - actions.countP Action.isTurn := by
  induction actions generalizing opening upgrade with
  | nil => exact ⟨upgrade, upgrade_eq, Nat.le_refl _⟩
  | cons action rest induction =>
      obtain ⟨next, next_eq, step_left, _⟩ := sound.step_upgrade upgrade_eq action
      obtain ⟨last, last_eq, run_left⟩ := induction (sound.step action) next_eq
      have both : ([action] ++ rest).countP Action.isTurn =
          [action].countP Action.isTurn + rest.countP Action.isTurn := List.countP_append
      rw [List.singleton_append] at both
      exact ⟨last, last_eq, by omega⟩

/-- A second invalid connection is reported to the exception handler, and both are given back. -/
example :
    let invalid (connection : Nat) : Outside :=
      { answer := .ok ⟨connection, ⟨"a", 80, false⟩, false⟩, key := "", outcome := .ok () }
    let opening := (start { config := {} } { uri := "/" } : Opening String).run
      [.setExceptionHandler "told", .subscribe "opened" true, .turn (invalid 0), .turn (invalid 1)]
    calls opening.history = [.told "told" (.connect (.invalidated "tcp://a:80"))] ∧
      released opening.history = [1, 0] :=
  ⟨rfl, rfl⟩

end Courier.WebSocket.Opening
