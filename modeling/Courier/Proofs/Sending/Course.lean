import Courier.Proofs.Sending.Sound

/-!
# The course of a send

A send exchanges one request for each redirect that it follows, stops for exactly one reason, and
does nothing more once it has stopped.
-/

namespace Courier.Sending

variable {clients : Nat → Client} {owner policy : Nat} {request : Request} {sending : Sending}
  {result : Except ClientError Response}

/-! ## Why a send ends -/

theorem Ends.unique {limit : UInt32} {history : List Event}
    {other : Except ClientError Response} (ends : Ends limit history result)
    (ends_other : Ends limit history other) : result = other := by
  cases ends <;> cases ends_other <;> rfl

/-- The record of a send whose exchange is under way does not end it. -/
theorem Engaged.not_ends (engaged : sending.Engaged clients)
    (stage : sending.stage = .acquiring ∨ sending.stage = .exchanging) (limit : UInt32) :
    ¬Ends limit (own sending.history) result := by
  intro ends
  cases engaged.place with
  | apart acquires_not exchanges_not => exact stage.elim acquires_not exchanges_not
  | acquiring _ rest own_eq =>
      rw [own_eq] at ends
      cases ends
  | exchanging _ rest own_eq written writable =>
      rw [own_eq] at ends
      cases ends

/-- A send has ended exactly if what it has done last ends it. -/
theorem Sound.finished_iff (sound : sending.Sound clients owner policy request)
    (engaged : sending.Engaged clients) :
    sending.stage = .finished result ↔ Ends (limit clients owner) (own sending.history) result := by
  cases sound.stands with
  | finished found stage ends some_begun few =>
      rw [stage, Stage.finished.injEq]
      constructor
      · rintro rfl
        exact ends
      · exact ends.unique
  | ready stage due begun_eq named_eq =>
      rw [stage]
      refine ⟨nofun, fun ends => ?_⟩
      rcases due with ⟨nothing, _⟩ | ⟨decider, next, rest, own_eq, _⟩
      · rw [nothing] at ends
        cases ends
      · have hops_le := sound.consistent.hops_le
        rw [← named_eq, ← named_own, own_eq] at hops_le
        rw [own_eq] at ends
        cases ends with
        | exhausted enough => exact absurd (enough ▸ hops_le) (Nat.not_succ_le_self _)
  | exchanging stage begun_eq named_eq =>
      refine ⟨fun finished => ?_, fun ends => absurd ends (engaged.not_ends stage _)⟩
      rw [finished] at stage
      exact stage.elim nofun nofun
  | deciding decider response stage since before history_eq quiet follows decider_eq begun_eq
      named_eq =>
      rw [stage, history_eq, own_append_exchanged quiet]
      refine ⟨nofun, fun ends => ?_⟩
      cases ends with
      | unfollowed follows_not => exact Bool.noConfusion (follows.symm.trans follows_not)

/-- A send whose policies have named one request more than the limit allows has ended for that
reason, and no other send has. -/
theorem Sound.exhausted_iff (sound : sending.Sound clients owner policy request)
    (engaged : sending.Engaged clients) :
    (named sending.history).length = (limit clients owner).toNat + 1 ↔
      sending.Exhausted (limit clients owner) := by
  have hops_le := sound.consistent.hops_le
  constructor
  · intro enough
    cases sound.stands with
    | finished found stage ends some_begun few => exact few.resolve_left (by omega)
    | ready stage due begun_eq named_eq => omega
    | exchanging stage begun_eq named_eq => omega
    | deciding decider response stage since before history_eq quiet follows decider_eq begun_eq
        named_eq => omega
  · rintro ⟨decider, next, client, current, response, rest, own_eq, stage⟩
    have ends := (sound.finished_iff engaged).mp stage
    rw [own_eq] at ends
    cases ends with
    | exhausted enough =>
        rw [← named_own, own_eq, ← enough]
        rfl

/-! ## A send that has ended -/

theorem step_of_finished (stage : sending.stage = .finished result) (action : Action) :
    (sending.step action).stage = .finished result ∧
      own (sending.step action).history = own sending.history := by
  cases action with
  | install policy => exact ⟨stage, rfl⟩
  | close client => exact ⟨stage, rfl⟩
  | turn outside =>
      rw [step, turn, stage]
      exact ⟨stage, rfl⟩

theorem run_of_finished (stage : sending.stage = .finished result) (actions : List Action) :
    (sending.run actions).stage = .finished result ∧
      own (sending.run actions).history = own sending.history := by
  induction actions generalizing sending with
  | nil => exact ⟨stage, rfl⟩
  | cons action rest induction =>
      have ⟨still, same⟩ := step_of_finished stage action
      have ⟨ended, unchanged⟩ := induction still
      exact ⟨ended, unchanged.trans same⟩

theorem Sound.begun_of_finished (sound : sending.Sound clients owner policy request)
    (stage : sending.stage = .finished result) : begun sending.history ≠ [] := by
  cases sound.stands with
  | finished found finished ends some_begun few => exact some_begun
  | ready other => cases stage.symm.trans other
  | exchanging other =>
      rw [stage] at other
      exact other.elim nofun nofun
  | deciding decider response other => cases stage.symm.trans other

/-! ## Going on -/

/-- How many turns the redirects take that a send can still follow. -/
def room (sending : Sending) : Nat :=
  4 * (sending.loop.limit.toNat - sending.loop.hops.toNat)

/-- How many turns a send can still have. -/
def left (sending : Sending) : Nat :=
  match sending.stage with
  | .ready => sending.room + 4
  | .acquiring => sending.room + 3
  | .exchanging => sending.room + 2
  | .deciding _ _ => sending.room + 1
  | .finished _ => 0

theorem settle_left (sending : Sending) (result : Except ClientError Response) :
    (sending.settle result).left ≤ sending.room + 1 := by
  rw [settle]
  split
  · exact Nat.zero_le _
  · exact Nat.le_refl _

theorem begin_left (sending : Sending) :
    sending.begin.left ≤ sending.room + 3 := by
  rw [begin]
  split
  · exact Nat.le_trans (settle_left _ _) (Nat.le_add_right _ 2)
  · exact Nat.le_refl _

theorem receive_left (sending : Sending) (answer : Answer Unit) :
    (sending.receive answer).left ≤ sending.room + 2 := by
  cases answer with
  | error error =>
      exact Nat.le_trans (settle_left sending (.error (.connect error))) (Nat.le_add_right _ 1)
  | ok connection =>
      rw [receive, Request.afterAnswer]
      cases sending.loop.current.outgoing with
      | error cause => exact Nat.le_trans (settle_left _ _) (Nat.le_add_right _ 1)
      | ok outgoing => exact Nat.le_refl _

theorem Consistent.obey_left (consistent : sending.Consistent clients owner policy request)
    (limit_lt : (limit clients owner).toNat < UInt32.size - 1) (decider : Nat)
    (response : Response) (decision : Decision) (client : Nat) :
    (sending.obey decider response decision client).left ≤ sending.room := by
  cases decision with
  | stay => exact Nat.zero_le _
  | refuse error => exact Nat.zero_le _
  | breakDown payload => exact Nat.zero_le _
  | next next =>
      rw [Sending.obey, SendLoop.afterDecision]
      by_cases beyond : sending.loop.hops + 1 > sending.loop.limit
      · rw [if_pos beyond]
        exact Nat.zero_le _
      · have within := mt UInt32.lt_iff_toNat_lt.mpr beyond
        have hops_succ := consistent.hops_succ limit_lt
        rw [if_neg beyond]
        simp only [left, room, hops_succ]
        omega

theorem Sound.turn_left (sound : sending.Sound clients owner policy request)
    (limit_lt : (limit clients owner).toNat < UInt32.size - 1) (outside : Outside) :
    (sending.turn outside).left ≤ sending.left - 1 := by
  rw [Sending.turn]
  cases stage : sending.stage with
  | ready =>
      have left_eq : sending.left = sending.room + 4 := by rw [left, stage]
      exact left_eq ▸ begin_left sending
  | acquiring =>
      have left_eq : sending.left = sending.room + 3 := by rw [left, stage]
      exact left_eq ▸ receive_left sending outside.answer
  | exchanging =>
      have left_eq : sending.left = sending.room + 2 := by rw [left, stage]
      exact left_eq ▸ settle_left sending _
  | deciding decider response =>
      have left_eq : sending.left = sending.room + 1 := by rw [left, stage]
      exact left_eq ▸ sound.consistent.obey_left limit_lt decider response outside.decision
        outside.client
  | finished result =>
      rw [left, stage]
      exact Nat.zero_le _

/-- What others do leaves a send as many turns as it had. -/
theorem Sound.step_left (sound : sending.Sound clients owner policy request)
    (limit_lt : (limit clients owner).toNat < UInt32.size - 1) (action : Action) :
    (sending.step action).left ≤ sending.left - [action].countP Action.isTurn := by
  cases action with
  | install policy => exact Nat.le_refl _
  | close client => exact Nat.le_refl _
  | turn outside => exact sound.turn_left limit_lt outside

theorem Sound.run_left (sound : sending.Sound clients owner policy request)
    (limit_lt : (limit clients owner).toNat < UInt32.size - 1) (actions : List Action) :
    (sending.run actions).left ≤ sending.left - actions.countP Action.isTurn := by
  induction actions generalizing sending with
  | nil => exact Nat.le_refl _
  | cons action rest induction =>
      have step_left := sound.step_left limit_lt action
      have run_left := induction (sound.step limit_lt action)
      have both : ([action] ++ rest).countP Action.isTurn =
          [action].countP Action.isTurn + rest.countP Action.isTurn := List.countP_append
      rw [← List.singleton_append, both]
      exact Nat.le_trans run_left (by omega)

/-- A send has no turns left only when it has ended. -/
theorem finished_of_left (none_left : sending.left = 0) :
    ∃ result, sending.stage = .finished result := by
  rw [left] at none_left
  cases stage : sending.stage with
  | finished result => exact ⟨result, rfl⟩
  | _ => simp [stage] at none_left

/-! ## Whole runs -/

/-- What a send does in a run, whatever it learns and whatever others do meanwhile.  Its record is
that of exchanges and decisions which follow one another; it exchanges at most one request more
than the limit allows redirects, and only one if that does not follow any; it stops with the result
that its last deed gives, for good, and soon enough. -/
theorem run_follows_redirects (clients : Nat → Client) (owner policy : Nat) (request : Request)
    (limit_lt : (limit clients owner).toNat < UInt32.size - 1) (actions : List Action) :
    let sending := (start clients owner policy request).run actions
    Grounded (Event.Proceeds clients) sending.history ∧
      Grounded (Event.Follows owner policy request) sending.history ∧
      (begun sending.history).length ≤ (limit clients owner).toNat + 1 ∧
      (asked sending.history).length ≤ (begun sending.history).length ∧
      (request.followRedirects = false →
        (begun sending.history).length ≤ 1 ∧ decisions sending.history = []) ∧
      (∀ result, sending.stage = .finished result ↔
        Ends (limit clients owner) (own sending.history) result) ∧
      ((named sending.history).length = (limit clients owner).toNat + 1 ↔
        sending.Exhausted (limit clients owner)) ∧
      (∀ result, sending.stage = .finished result → begun sending.history ≠ [] ∧
        ∀ later, (sending.run later).stage = .finished result ∧
          own (sending.run later).history = own sending.history) ∧
      (4 * ((limit clients owner).toNat + 1) ≤ actions.countP Action.isTurn →
        ∃ result, sending.stage = .finished result) := by
  intro sending
  have start_sound := sound_start clients owner policy request
  have sound : sending.Sound clients owner policy request := start_sound.run limit_lt actions
  have engaged : sending.Engaged clients :=
    (engaged_start clients owner policy request).run actions
  have consistent := sound.consistent
  have proceeds := engaged.recorded.grounded
  refine ⟨proceeds, consistent.grounded, consistent.begun_le, (asked_le_begun proceeds).1, ?_,
    fun result => sound.finished_iff engaged, sound.exhausted_iff engaged, ?_, ?_⟩
  · intro follows_not
    have begun_le_named := consistent.begun_le_named
    rw [consistent.named_of_unfollowed follows_not] at begun_le_named
    exact ⟨begun_le_named, (consistent.unfollowed follows_not).2⟩
  · intro result stage
    exact ⟨sound.begun_of_finished stage, run_of_finished stage⟩
  · intro enough
    have run_left := start_sound.run_left limit_lt actions
    have start_left : (start clients owner policy request).left =
        4 * ((limit clients owner).toNat + 1) := rfl
    have none_left : ((start clients owner policy request).run actions).left = 0 := by omega
    exact finished_of_left none_left

/-- A send whose server never stops redirecting has stopped after seventeen exchanges. -/
theorem endless_redirects_stop :
    let clients : Nat → Client := fun _ => { config := {} }
    let request : Request :=
      { method := "GET", target := ⟨"a", 80, false, "/", "a", 80, "a"⟩, followRedirects := true }
    let found : Outside :=
      { answer := .ok ()
        speech := ⟨[Bytes.ofString "HTTP/1.1 302 Found\r\nContent-Length: 0\r\n\r\n"], false⟩
        decision := .next request
        client := 0 }
    let sending := (start clients 0 0 request).run (List.replicate 68 (.turn found))
    (limit clients 0).toNat < UInt32.size - 1 ∧ (begun sending.history).length ≤ 17 ∧
      ∃ result, sending.stage = .finished result := by
  intro clients request found sending
  have limit_lt : (limit clients 0).toNat < UInt32.size - 1 := by decide
  obtain ⟨_, _, begun_le, _, _, _, _, _, finished⟩ :=
    run_follows_redirects clients 0 0 request limit_lt (List.replicate 68 (.turn found))
  exact ⟨limit_lt, begun_le, finished (by decide)⟩

end Courier.Sending
