import Courier.Handoff

/-!
# What becomes of an answer

An answer is in one place at a time: on its way, with the requester, or gone.
-/

namespace Courier.Handoff

variable {κ : Type} {handoff : Handoff κ} {answer : Answer κ}

/-- The three ways in which a pool gets rid of an answer, and the one in which it does not. -/
theorem resolve_cases (handoff : Handoff κ) (route : Route) (answer : Answer κ) :
    (handoff.isCancelled = true ∧
        handoff.resolve route answer = ({ handoff with sender := .gone }, .returned answer)) ∨
      (handoff.isCancelled = false ∧ route = .direct ∧
        handoff.resolve route answer =
          ({ handoff with sender := .gone, arrived := some answer }, .arrived)) ∨
      (handoff.isCancelled = false ∧ route = .context ∧
        handoff.resolve route answer = ({ handoff with sender := .inFlight answer }, .underWay)) ∨
      (handoff.isCancelled = false ∧ route = .refused ∧
        handoff.resolve route answer = ({ handoff with sender := .gone }, .dropped answer)) := by
  cases cancelled : handoff.isCancelled with
  | true => exact Or.inl ⟨rfl, by simp [resolve, cancelled]⟩
  | false =>
      refine Or.inr ?_
      cases route with
      | direct => exact Or.inl ⟨rfl, rfl, by simp [resolve, cancelled]⟩
      | context => exact Or.inr (Or.inl ⟨rfl, rfl, by simp [resolve, cancelled]⟩)
      | refused => exact Or.inr (Or.inr ⟨rfl, rfl, by simp [resolve, cancelled]⟩)

/-- Nothing arrives before the pool has given up the right to answer. -/
def Proper (handoff : Handoff κ) : Prop := handoff.sender ≠ .gone → handoff.arrived = none

theorem proper_new : ({} : Handoff κ).Proper := fun _ => rfl

theorem Proper.carried_of_held (proper : handoff.Proper) (held : handoff.sender = .held) :
    handoff.carried? = none := by
  rw [carried?, held]
  exact proper (by simp [held])

theorem carried_of_gone (gone : handoff.sender = .gone) : handoff.carried? = handoff.arrived := by
  rw [carried?, gone]

theorem connection_of_gone (gone : handoff.sender = .gone) :
    handoff.connection? = handoff.arrived.bind Except.toOption := by
  rw [connection?, carried_of_gone gone]

theorem connection_of_in_flight (in_flight : handoff.sender = .inFlight answer) :
    handoff.connection? = answer.toOption := by
  rw [connection?, carried?, in_flight]
  rfl

theorem connection_of_arrived (gone : handoff.sender = .gone)
    (arrived : handoff.arrived = some answer) : handoff.connection? = answer.toOption := by
  rw [connection_of_gone gone, arrived]
  rfl

theorem connection_of_ended (gone : handoff.sender = .gone) (nothing : handoff.arrived = none) :
    handoff.connection? = none := by
  rw [connection_of_gone gone, nothing]
  rfl

theorem resolve_proper (handoff : Handoff κ) (route : Route) (answer : Answer κ)
    (proper : handoff.Proper) (held : handoff.sender = .held) :
    (handoff.resolve route answer).1.Proper := by
  obtain ⟨_, equation⟩ | ⟨_, _, equation⟩ | ⟨_, _, equation⟩ | ⟨_, _, equation⟩ :=
    handoff.resolve_cases route answer <;> rw [equation]
  · exact fun not_gone => absurd rfl not_gone
  · exact fun not_gone => absurd rfl not_gone
  · exact fun _ => proper (by simp [held])
  · exact fun not_gone => absurd rfl not_gone

theorem resolve_sender_ne_held (handoff : Handoff κ) (route : Route) (answer : Answer κ) :
    (handoff.resolve route answer).1.sender ≠ .held := by
  obtain ⟨_, equation⟩ | ⟨_, _, equation⟩ | ⟨_, _, equation⟩ | ⟨_, _, equation⟩ :=
    handoff.resolve_cases route answer <;> rw [equation] <;> nofun

/-- An answer is carried if it is on its way or has arrived. -/
theorem resolve_carried (route : Route) (answer : Answer κ) (proper : handoff.Proper)
    (held : handoff.sender = .held) :
    (handoff.resolve route answer).1.carried? =
      if (handoff.resolve route answer).2.kept then some answer else none := by
  have nothing : handoff.arrived = none := proper (by simp [held])
  obtain ⟨_, equation⟩ | ⟨_, _, equation⟩ | ⟨_, _, equation⟩ | ⟨_, _, equation⟩ :=
    handoff.resolve_cases route answer <;> rw [equation]
  · exact nothing
  · rfl
  · rfl
  · exact nothing

/-- An answer is accepted unless the requester has given up. -/
theorem resolve_accepted (handoff : Handoff κ) (route : Route) (answer : Answer κ) :
    (handoff.resolve route answer).2.accepted = !handoff.isCancelled := by
  obtain ⟨cancelled, equation⟩ | ⟨cancelled, _, equation⟩ | ⟨cancelled, _, equation⟩ |
    ⟨cancelled, _, equation⟩ := handoff.resolve_cases route answer <;>
    rw [equation, cancelled] <;> rfl

theorem resolve_isCancelled (handoff : Handoff κ) (route : Route) (answer : Answer κ) :
    (handoff.resolve route answer).1.isCancelled = handoff.isCancelled := by
  obtain ⟨_, equation⟩ | ⟨_, _, equation⟩ | ⟨_, _, equation⟩ | ⟨_, _, equation⟩ :=
    handoff.resolve_cases route answer <;> rw [equation] <;> rfl

/-- Nothing comes of an answer only if the requester has given up or its context is closed. -/
theorem resolve_ended (handoff : Handoff κ) (route : Route) (answer : Answer κ)
    (gone : (handoff.resolve route answer).1.sender = .gone)
    (nothing : (handoff.resolve route answer).1.arrived = none) :
    handoff.isCancelled = true ∨ route = .refused := by
  obtain ⟨cancelled, _⟩ | ⟨_, _, equation⟩ | ⟨_, _, equation⟩ | ⟨_, refused, _⟩ :=
    handoff.resolve_cases route answer
  · exact Or.inl cancelled
  · rw [equation] at nothing
    cases nothing
  · rw [equation] at gone
    cases gone
  · exact Or.inr refused

theorem dropSender_sender (handoff : Handoff κ) : handoff.dropSender.1.sender = .gone := by
  rw [dropSender]
  split <;> rfl

/-- An answer stays where it can be got, or is given back. -/
structure Passes (before : Handoff κ) (after : Handoff κ × Option (Answer κ)) : Prop where
  proper : after.1.Proper
  carried : after.2 = none ∧ after.1.carried? = before.carried? ∨
    after.2 = before.carried? ∧ after.1.carried? = none

/-- Nothing that could be got comes of a handoff that carried nothing. -/
theorem Passes.carried_of_held {after : Handoff κ × Option (Answer κ)}
    (passes : handoff.Passes after) (proper : handoff.Proper) (held : handoff.sender = .held) :
    after.1.carried? = none := by
  rcases passes.carried with ⟨_, same⟩ | ⟨_, nothing⟩
  · rw [same, proper.carried_of_held held]
  · exact nothing

/-- No connection can be got that could not be got before. -/
theorem Passes.no_more {after : Handoff κ × Option (Answer κ)} (passes : handoff.Passes after)
    {connection : κ} (carries : after.1.connection? = some connection) :
    handoff.connection? = some connection := by
  rw [connection?] at carries ⊢
  rcases passes.carried with ⟨_, same⟩ | ⟨_, nothing⟩
  · rw [← same]
    exact carries
  · rw [nothing] at carries
    cases carries

theorem Proper.cancel (proper : handoff.Proper) : handoff.Passes (handoff.cancel, none) :=
  ⟨proper, Or.inl ⟨rfl, rfl⟩⟩

theorem Proper.publish (proper : handoff.Proper) : handoff.Passes handoff.publish := by
  rw [Handoff.publish]
  split
  · rename_i answer in_flight
    have nothing : handoff.arrived = none := proper (by simp [in_flight])
    have carried : handoff.carried? = some answer := by rw [carried?, in_flight]
    split
    · exact ⟨fun not_gone => absurd rfl not_gone, Or.inr ⟨carried.symm, nothing⟩⟩
    · exact ⟨fun not_gone => absurd rfl not_gone, Or.inl ⟨rfl, carried.symm⟩⟩
  · exact ⟨proper, Or.inl ⟨rfl, rfl⟩⟩

theorem Proper.dropSender (proper : handoff.Proper) : handoff.Passes handoff.dropSender := by
  rw [Handoff.dropSender]
  split
  · rename_i answer in_flight
    have nothing : handoff.arrived = none := proper (by simp [in_flight])
    have carried : handoff.carried? = some answer := by rw [carried?, in_flight]
    exact ⟨fun not_gone => absurd rfl not_gone, Or.inr ⟨carried.symm, nothing⟩⟩
  · rename_i not_in_flight
    refine ⟨fun not_gone => absurd rfl not_gone, Or.inl ⟨rfl, ?_⟩⟩
    cases sender : handoff.sender with
    | inFlight answer => exact absurd sender (not_in_flight answer)
    | held => simp [carried?, sender]
    | gone => simp [carried?, sender]

theorem Proper.dropReceiver (proper : handoff.Proper) : handoff.Passes handoff.dropReceiver := by
  refine ⟨fun _ => rfl, ?_⟩
  cases sender : handoff.sender with
  | inFlight answer =>
      have nothing : handoff.arrived = none := proper (by simp [sender])
      exact Or.inl ⟨nothing, by simp [carried?, Handoff.dropReceiver, sender]⟩
  | held => exact Or.inr ⟨by simp [carried?, Handoff.dropReceiver, sender],
      by simp [carried?, Handoff.dropReceiver, sender]⟩
  | gone => exact Or.inr ⟨by simp [carried?, Handoff.dropReceiver, sender],
      by simp [carried?, Handoff.dropReceiver, sender]⟩

theorem publish_held_iff (handoff : Handoff κ) :
    handoff.publish.1.sender = .held ↔ handoff.sender = .held := by
  rw [publish]
  split
  · rename_i answer in_flight
    split <;> simp [in_flight]
  · exact Iff.rfl

theorem publish_of_given_up (in_flight : handoff.sender = .inFlight answer)
    (given_up : handoff.isCancelled = true) :
    handoff.publish = ({ handoff with sender := .gone }, some answer) := by
  rw [isCancelled] at given_up
  simp [Handoff.publish, in_flight, given_up]

theorem publish_of_wanted (in_flight : handoff.sender = .inFlight answer)
    (wanted : handoff.isCancelled = false) :
    handoff.publish = ({ handoff with sender := .gone, arrived := some answer }, none) := by
  rw [isCancelled] at wanted
  simp [Handoff.publish, in_flight, wanted]

theorem publish_of_gone (gone : handoff.sender = .gone) : handoff.publish = (handoff, none) := by
  rw [Handoff.publish, gone]

theorem dropSender_of_in_flight (in_flight : handoff.sender = .inFlight answer) :
    handoff.dropSender = ({ handoff with sender := .gone }, some answer) := by
  rw [Handoff.dropSender, in_flight]

theorem dropSender_of_not_in_flight (not_in_flight : ∀ answer, handoff.sender ≠ .inFlight answer) :
    handoff.dropSender = ({ handoff with sender := .gone }, none) := by
  rw [Handoff.dropSender]
  split
  · rename_i answer in_flight
    exact absurd in_flight (not_in_flight answer)
  · rfl

/-! ## Taking an answer -/

theorem take_sender (handoff : Handoff κ) : handoff.take.1.sender = handoff.sender := by
  rw [take]
  split <;> rfl

theorem Proper.take (proper : handoff.Proper) : handoff.take.1.Proper := by
  rw [Handoff.take]
  split
  · exact proper
  · exact fun _ => rfl

/-- An answer that the requester looks at stays where it is or is taken. -/
theorem take_carried (handoff : Handoff κ) :
    handoff.take.1.carried? = handoff.carried? ∨ handoff.take.1.carried? = none := by
  rw [take]
  split
  · exact Or.inl rfl
  · cases sender : handoff.sender with
    | inFlight answer => exact Or.inl (by simp [carried?, sender])
    | held => exact Or.inr (by simp [carried?])
    | gone => exact Or.inr (by simp [carried?])

theorem carried_of_take {connection : κ}
    (carries : handoff.take.1.connection? = some connection) :
    handoff.connection? = some connection := by
  rw [connection?] at carries ⊢
  rcases handoff.take_carried with same | nothing
  · rw [← same]
    exact carries
  · rw [nothing] at carries
    cases carries

/-- A connection that a requester sees has arrived. -/
theorem Proper.carried_of_poll (proper : handoff.Proper) {connection : κ}
    (ready : handoff.poll = .ready (.ok connection)) :
    handoff.connection? = some connection := by
  rw [poll] at ready
  split at ready
  · cases ready
  · split at ready
    · rename_i sender answer arrived
      obtain rfl := Poll.ready.inj ready
      have gone : handoff.sender = .gone := Classical.byContradiction fun not_gone => by
        rw [proper not_gone] at arrived
        cases arrived
      rw [connection?, carried_of_gone gone, arrived]
      rfl
    · cases ready
    · cases ready

/-- What a requester sees before it has given up has arrived, unless nothing will. -/
theorem Proper.of_ready (proper : handoff.Proper) (wanted : handoff.isCancelled = false)
    (ready : handoff.poll = .ready answer) :
    handoff.carried? = some answer ∨
      answer = .error .abandoned ∧ handoff.sender = .gone ∧ handoff.arrived = none := by
  have not_cancelled : handoff.cancelled = false := (Bool.or_eq_false_iff.mp wanted).1
  rw [poll, not_cancelled, if_neg Bool.false_ne_true] at ready
  split at ready
  · rename_i arrived_answer _ arrived
    obtain rfl := Poll.ready.inj ready
    have gone : handoff.sender = .gone := Classical.byContradiction fun not_gone => by
      rw [proper not_gone] at arrived
      cases arrived
    exact Or.inl ((carried_of_gone gone).trans arrived)
  · rename_i nothing gone
    exact Or.inr ⟨(Poll.ready.inj ready).symm, gone, nothing⟩
  · cases ready

/-- A requester whose request is dropped before an answer was given sees that it was abandoned. -/
theorem Proper.poll_of_dropped (proper : handoff.Proper) (held : handoff.sender = .held) :
    handoff.dropSender.1.poll = .ready (.error .abandoned) := by
  have nothing : handoff.arrived = none := proper (by simp [held])
  rw [dropSender_of_not_in_flight (by simp [held]), poll]
  dsimp only
  rw [nothing]
  split <;> rfl

/-! ## What stays as it is -/

theorem publish_listening (handoff : Handoff κ) :
    handoff.publish.1.listening = handoff.listening := by
  rw [publish]
  split
  · split <;> rfl
  · rfl

theorem dropSender_listening (handoff : Handoff κ) :
    handoff.dropSender.1.listening = handoff.listening := by
  rw [dropSender]
  split <;> rfl

theorem publish_isCancelled (handoff : Handoff κ) :
    handoff.publish.1.isCancelled = handoff.isCancelled := by
  rw [publish]
  split
  · split <;> rfl
  · rfl

theorem dropSender_isCancelled (handoff : Handoff κ) :
    handoff.dropSender.1.isCancelled = handoff.isCancelled := by
  rw [dropSender]
  split <;> rfl

theorem take_isCancelled (handoff : Handoff κ) :
    handoff.take.1.isCancelled = handoff.isCancelled := by
  rw [take]
  split <;> rfl

theorem publish_arrived (nothing : handoff.arrived = none)
    (arrived : handoff.publish.1.arrived = some answer) :
    handoff.isCancelled = false ∧ handoff.sender = .inFlight answer := by
  cases sender : handoff.sender with
  | held =>
      rw [publish, sender] at arrived
      cases nothing.symm.trans arrived
  | gone =>
      rw [publish_of_gone sender] at arrived
      cases nothing.symm.trans arrived
  | inFlight other =>
      cases given_up : handoff.isCancelled with
      | true =>
          rw [publish_of_given_up sender given_up] at arrived
          cases nothing.symm.trans arrived
      | false =>
          rw [publish_of_wanted sender given_up] at arrived
          cases arrived
          exact ⟨rfl, rfl⟩

theorem dropSender_arrived (handoff : Handoff κ) :
    handoff.dropSender.1.arrived = handoff.arrived := by
  rw [dropSender]
  split <;> rfl

theorem take_arrived (handoff : Handoff κ) :
    handoff.take.1.arrived = handoff.arrived ∨ handoff.take.1.arrived = none := by
  rw [take]
  split
  · exact Or.inl rfl
  · exact Or.inr rfl

end Courier.Handoff
