import Courier.Proofs.Delivery.Sound

/-!
# What becomes of an answer in the end

Once the requester is told something or is gone, and the driver of the context has had its turns, no
connection is left that was given and has not come to its end.
-/

namespace Courier.Delivery

variable {κ ψ η : Type} {hasContext : Bool} {delivery : Delivery κ ψ η}

/-! ## Nothing is left -/

theorem Sound.finished_carries_nothing (sound : delivery.Sound hasContext)
    (finished : delivery.finished = true) : delivery.handoff.connection? = none := by
  cases sound.stage with
  | unanswered _ _ untold => cases untold.symm.trans finished
  | under_way _ _ _ untold => cases untold.symm.trans finished
  | arrived _ _ _ untold => cases untold.symm.trans finished
  | ended gone nothing => exact Handoff.connection_of_ended gone nothing

theorem Sound.forsaken_carries_nothing (sound : delivery.Sound hasContext)
    (forsaken : delivery.handoff.listening = false) (waits_not : delivery.waits = false) :
    delivery.handoff.connection? = none := by
  cases sound.stage with
  | unanswered held nothing =>
      rw [Handoff.connection?, Handoff.carried?, held, nothing]
      rfl
  | under_way _ _ _ _ waits => cases waits_not.symm.trans waits
  | arrived _ _ _ _ listening => cases forsaken.symm.trans listening
  | ended gone nothing => exact Handoff.connection_of_ended gone nothing

/-- How much waits at the context. -/
def pending (delivery : Delivery κ ψ η) : Nat :=
  match delivery.context with
  | none => 0
  | some context => context.jobs.length

theorem waits_of_pending (none_pending : delivery.pending = 0) : delivery.waits = false := by
  rw [pending] at none_pending
  rw [waits]
  cases context : delivery.context with
  | none => rfl
  | some present =>
      rw [context] at none_pending
      have no_jobs : present.jobs = [] := List.eq_nil_of_length_eq_zero none_pending
      simp [no_jobs]

@[simp]
theorem recordAnswer_handoff (event : Answer κ → Event κ) (answer : Option (Answer κ)) :
    (delivery.recordAnswer event answer).handoff = delivery.handoff := by
  cases answer <;> rfl

@[simp]
theorem recordAnswer_context (event : Answer κ → Event κ) (answer : Option (Answer κ)) :
    (delivery.recordAnswer event answer).context = delivery.context := by
  cases answer <;> rfl

theorem deliver_context (delivery : Delivery κ ψ η) :
    delivery.deliver.context = delivery.context := by
  rw [deliver]
  split
  · rfl
  · exact recordAnswer_context _ _

theorem deliver_handoff (delivery : Delivery κ ψ η) :
    delivery.deliver.handoff = delivery.handoff.publish.1 := by
  rw [deliver]
  split
  · rfl
  · exact recordAnswer_handoff _ _

theorem stop_context (delivery : Delivery κ ψ η) (context : Context Job ψ η) :
    (delivery.stop context).context = some context.halt.1 := by
  rw [stop]
  cases waits : context.halt.2.any delivers <;> simp [waits]

theorem stop_handoff (delivery : Delivery κ ψ η) (context : Context Job ψ η) :
    (delivery.stop context).handoff = delivery.handoff ∨
      (delivery.stop context).handoff = delivery.handoff.dropSender.1 := by
  rw [stop]
  cases waits : context.halt.2.any delivers <;> simp [waits]

/-- A requester that is gone stays gone, whatever the driver does. -/
theorem drive_listening (delivery : Delivery κ ψ η) :
    delivery.drive.handoff.listening = delivery.handoff.listening := by
  obtain ⟨same, _⟩ | ⟨context, _, _, stops | ⟨jobs, _, _, delivers⟩ | ⟨_, rests⟩⟩ :=
    delivery.drive_cases
  · rw [same]
  · rw [stops]
    rcases delivery.stop_handoff context with same | dropped
    · rw [same]
    · rw [dropped, Handoff.dropSender_listening]
  · rw [delivers, deliver_handoff, Handoff.publish_listening]
  · rw [rests]

/-- A driver that has a turn stops, or takes one of the jobs that wait, if there is any. -/
theorem Sound.drive_pending (sound : delivery.Sound hasContext) :
    delivery.drive.pending ≤ delivery.pending - 1 := by
  obtain ⟨same, stopped⟩ | ⟨context, present, _, stops | ⟨jobs, waiting, _, delivers⟩ |
    ⟨_, rests⟩⟩ := delivery.drive_cases
  · rw [same, pending]
    cases present : delivery.context with
    | none => exact Nat.zero_le _
    | some context =>
        have idle := sound.consistent.idle context present (stopped context present)
        simp [idle]
  · rw [stops, pending, stop_context]
    exact Nat.zero_le _
  · rw [delivers, pending, deliver_context, pending, present]
    simp [waiting]
  · rw [rests, pending, pending, present]
    simp

theorem forsake_listening (delivery : Delivery κ ψ η) :
    delivery.forsake.handoff.listening = false := by
  rw [forsake]
  split
  · exact congrArg Handoff.listening (recordAnswer_handoff _ _)
  · rename_i not_listening
    simpa using not_listening

theorem forsake_context (delivery : Delivery κ ψ η) :
    delivery.forsake.context = delivery.context := by
  rw [forsake]
  split
  · exact recordAnswer_context _ _
  · rfl

/-- Nothing is left of a request that its requester has dropped once the driver has had a turn for
every job that waits. -/
theorem Sound.driven_carries_nothing (sound : delivery.Sound hasContext)
    (forsaken : delivery.handoff.listening = false) (turns : Nat)
    (enough : delivery.pending ≤ turns) :
    (delivery.run (List.replicate turns .drive)).handoff.connection? = none := by
  induction turns generalizing delivery with
  | zero =>
      exact sound.forsaken_carries_nothing forsaken (waits_of_pending (Nat.le_zero.mp enough))
  | succ turns induction =>
      have fewer := sound.drive_pending
      exact induction sound.drive (delivery.drive_listening.trans forsaken)
        (Nat.le_trans fewer (Nat.sub_le_of_le_add enough))

/-! ## How an answer arrives -/

/-- With this action an answer arrives: the pool gives it, or the driver of the context runs the job
that delivers it, and the requester has not given up. -/
def Brings (hasContext : Bool) (delivery : Delivery κ ψ η) (action : Action κ ψ)
    (answer : Answer κ) : Prop :=
  delivery.handoff.isCancelled = false ∧
    if hasContext then
      action = .drive ∧ delivery.handoff.sender = .inFlight answer ∧
        ∃ context, delivery.context = some context ∧ context.stopped = false ∧
          context.turn.2 = .run .deliver
    else action = .give answer

theorem stop_arrived (delivery : Delivery κ ψ η) (context : Context Job ψ η) :
    (delivery.stop context).handoff.arrived = delivery.handoff.arrived := by
  rcases delivery.stop_handoff context with same | dropped
  · rw [same]
  · rw [dropped, Handoff.dropSender_arrived]

theorem look_arrived (delivery : Delivery κ ψ η) :
    delivery.look.handoff.arrived = delivery.handoff.arrived ∨
      delivery.look.handoff.arrived = none := by
  rw [look]
  split
  · split
    · exact Or.inl rfl
    · rename_i handoff answer taken
      have arrived := delivery.handoff.take_arrived
      rw [taken] at arrived
      exact arrived
  · exact Or.inl rfl

theorem Sound.drive_arrived {answer : Answer κ} (sound : delivery.Sound hasContext)
    (nothing : delivery.handoff.arrived = none)
    (arrived : delivery.drive.handoff.arrived = some answer) :
    delivery.Brings hasContext .drive answer := by
  obtain ⟨same, _⟩ | ⟨context, present, not_stopped, stops | ⟨jobs, _, turn, delivers⟩ |
    ⟨_, rests⟩⟩ := delivery.drive_cases
  · rw [same] at arrived
    cases nothing.symm.trans arrived
  · rw [stops, stop_arrived] at arrived
    cases nothing.symm.trans arrived
  · rw [delivers, deliver_handoff] at arrived
    obtain ⟨wanted, in_flight⟩ := Handoff.publish_arrived nothing arrived
    have has_context : hasContext = true := by
      rw [← sound.consistent.has_context, present]
      rfl
    refine ⟨wanted, ?_⟩
    rw [has_context]
    exact ⟨rfl, in_flight, context, present, not_stopped, turn⟩
  · rw [rests] at arrived
    cases nothing.symm.trans arrived

theorem cancel_arrived (delivery : Delivery κ ψ η) :
    delivery.cancel.handoff.arrived = delivery.handoff.arrived := by
  rw [cancel]
  split <;> rfl

theorem forsake_arrived (delivery : Delivery κ ψ η) (nothing : delivery.handoff.arrived = none) :
    delivery.forsake.handoff.arrived = none := by
  rw [forsake]
  split
  · exact congrArg Handoff.arrived (recordAnswer_handoff _ _)
  · exact nothing

theorem withdraw_arrived (delivery : Delivery κ ψ η) :
    delivery.withdraw.handoff.arrived = delivery.handoff.arrived := by
  rw [withdraw]
  split
  · exact delivery.handoff.dropSender_arrived
  · rfl

theorem breakDown_arrived (delivery : Delivery κ ψ η) :
    delivery.breakDown.handoff.arrived = delivery.handoff.arrived := by
  rw [breakDown]
  split
  · rfl
  · split
    · rfl
    · exact delivery.stop_arrived _

theorem receive_arrived (delivery : Delivery κ ψ η) (reception : Handoff.Reception κ)
    (answer : Answer κ) :
    (delivery.receive reception answer).handoff.arrived = delivery.handoff.arrived := by
  cases reception <;> rfl

theorem Sound.give_arrived {answer other : Answer κ} (sound : delivery.Sound hasContext)
    (nothing : delivery.handoff.arrived = none)
    (arrived : (delivery.give other).handoff.arrived = some answer) :
    delivery.Brings hasContext (.give other) answer := by
  rw [Delivery.give] at arrived
  split at arrived
  · obtain ⟨_, resolved⟩ | ⟨wanted, direct, resolved⟩ | ⟨_, _, resolved⟩ | ⟨_, _, resolved⟩ :=
      delivery.handoff.resolve_cases delivery.route other <;>
      rw [resolved, receive_arrived] at arrived
    · cases nothing.symm.trans arrived
    · obtain ⟨_, no_context⟩ | ⟨_, _, ⟨_, route⟩ | ⟨_, route⟩⟩ := delivery.route_cases
      · have has_context : hasContext = false := by
          rw [← sound.consistent.has_context, no_context]
          rfl
        cases arrived
        refine ⟨wanted, ?_⟩
        rw [has_context]
        rfl
      · cases direct.symm.trans route
      · cases direct.symm.trans route
    · cases nothing.symm.trans arrived
    · cases nothing.symm.trans arrived
  · cases nothing.symm.trans arrived

/-- An answer arrives only with an action that brings it. -/
theorem Sound.step_arrived {action : Action κ ψ} {answer : Answer κ}
    (sound : delivery.Sound hasContext) (nothing : delivery.handoff.arrived = none)
    (arrived : (delivery.step action).handoff.arrived = some answer) :
    delivery.Brings hasContext action answer := by
  have unless_same (same : (delivery.step action).handoff.arrived = delivery.handoff.arrived) :
      delivery.Brings hasContext action answer := by
    cases nothing.symm.trans (same.symm.trans arrived)
  cases action with
  | give other => exact sound.give_arrived nothing arrived
  | drive => exact sound.drive_arrived nothing arrived
  | look =>
      rcases delivery.look_arrived with same | taken
      · exact unless_same same
      · cases taken.symm.trans arrived
  | cancel => exact unless_same delivery.cancel_arrived
  | forsake => exact unless_same ((delivery.forsake_arrived nothing).trans nothing.symm)
  | withdraw => exact unless_same delivery.withdraw_arrived
  | breakDown => exact unless_same delivery.breakDown_arrived
  | execute => exact unless_same rfl
  | spawn future => exact unless_same rfl
  | beginClose => exact unless_same rfl
  | endClose => exact unless_same rfl

/-- Whatever becomes of an answer, it is on record that the pool has given it. -/
theorem given_recorded (held : delivery.handoff.sender = .held) (answer : Answer κ) :
    .given answer ∈ (delivery.give answer).history := by
  rw [Delivery.give, held]
  dsimp only
  cases (delivery.handoff.resolve delivery.route answer).2 with
  | underWay => exact List.mem_cons_self
  | returned answer => exact List.mem_cons_of_mem _ List.mem_cons_self
  | arrived => exact List.mem_cons_of_mem _ List.mem_cons_self
  | dropped answer => exact List.mem_cons_of_mem _ List.mem_cons_self

/-- Whoever acts and in whatever order: what stands in the record is justified by what stands
before it, and what the pool gives stands there; an answer arrives on the driver of the context if
there is one, and straight from the pool if there is none; and the pool gives one connection at
most, which is carried or has come to exactly one end.  It has come to that end once the requester
was told anything, and whatever has happened, once the requester drops its side and the driver has
had a turn for all that waits. -/
theorem run_outcome (kind : Option ContextKind) (actions : List (Action κ ψ)) :
    let delivery := (start kind : Delivery κ ψ η).run actions
    Justified kind.isSome delivery.history ∧
      (∀ answer, delivery.handoff.sender = .held →
        .given answer ∈ (delivery.step (.give answer)).history) ∧
      (∀ action answer, delivery.handoff.arrived = none →
        (delivery.step action).handoff.arrived = some answer →
          delivery.Brings kind.isSome action answer) ∧
      Accounted delivery.history delivery.handoff.connection? ∧
      (delivery.finished = true → Concluded delivery.history) ∧
      Concluded (delivery.run (.forsake :: List.replicate delivery.pending .drive)).history := by
  intro delivery
  have sound : delivery.Sound kind.isSome := (sound_start kind).run actions
  refine ⟨sound.consistent.justified, fun answer held => given_recorded held answer,
    fun _ _ => sound.step_arrived,
    sound.consistent.accounted, fun finished => ?_, ?_⟩
  · exact (sound.carries (sound.finished_carries_nothing finished)).accounted.concluded
  · have forsaken := sound.forsake
    have enough : delivery.forsake.pending ≤ delivery.pending := by
      rw [pending, forsake_context]
      exact Nat.le_refl _
    have nothing := forsaken.driven_carries_nothing delivery.forsake_listening _ enough
    have driven := forsaken.run (List.replicate delivery.pending .drive)
    exact (driven.carries nothing).accounted.concluded

/-- A requester that gives up while its connection waits at the context does not get it. -/
example :
    ((start (some .eventLoop) : Delivery Nat Unit Unit).run
      [.give (.ok 7), .cancel, .drive, .look]).history =
        [.settled (.error .abandoned), .unwanted (.ok 7), .cancelled, .given (.ok 7)] := rfl

end Courier.Delivery
