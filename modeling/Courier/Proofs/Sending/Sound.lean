import Courier.Proofs.Sending.Exchange

/-!
# Sound sends

A send keeps count of its exchanges and of the redirects it has followed, whatever it learns in its
turns and whatever others do between them.
-/

namespace Courier.Sending

variable {clients : Nat → Client} {owner policy : Nat} {request : Request} {sending : Sending}
  {event : Event} {history : List Event}

/-! ## Reading a record -/

theorem policyAfter_of_own (own_event : event.isOwn = true) (first : Nat) :
    policyAfter first (event :: history) = policyAfter first history := by
  cases event with
  | installed policy => cases own_event
  | closed client => cases own_event
  | began => rfl
  | asked => rfl
  | connected => rfl
  | exchanged => rfl
  | decided => rfl

theorem begun_cons_of_none (begins_not : event.begun? = none) :
    begun (event :: history) = begun history := List.filterMap_cons_none begins_not

theorem decisions_cons_of_none (decides_not : event.decision? = none) :
    decisions (event :: history) = decisions history := List.filterMap_cons_none decides_not

theorem named_cons_of_none (decides_not : event.decision? = none) :
    named (event :: history) = named history := by
  rw [named, named, decisions_cons_of_none decides_not]

/-- The requests that policies have named stand in what the send itself has done. -/
theorem named_own (history : List Event) : named (own history) = named history := by
  induction history with
  | nil => rfl
  | cons event history induction =>
      cases event with
      | installed policy => exact induction
      | closed client => exact induction
      | began => exact induction
      | asked => exact induction
      | connected => exact induction
      | exchanged => exact induction
      | decided decider decision client =>
          cases decision with
          | next next => exact congrArg (next :: ·) induction
          | stay => exact induction
          | refuse => exact induction
          | breakDown => exact induction

theorem named_le_decided (decider : Nat) (decision : Decision) (client : Nat)
    (history : List Event) :
    (named history).length ≤ (named (.decided decider decision client :: history)).length := by
  cases decision with
  | next next => exact Nat.le_succ _
  | stay => exact Nat.le_refl _
  | refuse error => exact Nat.le_refl _
  | breakDown payload => exact Nat.le_refl _

/-! ## The invariant -/

/-- The limit of a send is that of its client. -/
def limit (clients : Nat → Client) (owner : Nat) : UInt32 := (clients owner).config.maxRedirects

/-- The record of a send agrees with what the send knows, whatever its stage. -/
structure Consistent (clients : Nat → Client) (owner policy : Nat) (request : Request)
    (sending : Sending) : Prop where
  grounded : Grounded (Event.Follows owner policy request) sending.history
  limit_eq : sending.loop.limit = limit clients owner
  hops_le : sending.loop.hops.toNat ≤ (limit clients owner).toNat
  policy_eq : sending.policy = policyAfter policy sending.history
  begun_le : (begun sending.history).length ≤ (limit clients owner).toNat + 1
  begun_le_named : (begun sending.history).length ≤ (named sending.history).length + 1
  /-- A request that does not follow redirects is the only one. -/
  unfollowed : request.followRedirects = false →
    sending.loop.current = request ∧ decisions sending.history = []

/-- The next exchange is that of the first request, or of the request that was named last. -/
def Due (owner : Nat) (request : Request) (sending : Sending) : Prop :=
  (own sending.history = [] ∧ sending.client = owner ∧ sending.loop.current = request) ∨
    ∃ decider next rest,
      own sending.history = .decided decider (.next next) sending.client :: rest ∧
        sending.loop.current = { next with followRedirects := true }

/-- Where a send stands, and what its record says about that. -/
inductive Stands (clients : Nat → Client) (owner policy : Nat) (request : Request)
    (sending : Sending) : Prop where
  | ready (stage : sending.stage = .ready) (due : sending.Due owner request)
      (begun_eq : (begun sending.history).length = sending.loop.hops.toNat)
      (named_eq : (named sending.history).length = sending.loop.hops.toNat)
  | exchanging (stage : sending.stage = .acquiring ∨ sending.stage = .exchanging)
      (begun_eq : (begun sending.history).length = sending.loop.hops.toNat + 1)
      (named_eq : (named sending.history).length = sending.loop.hops.toNat)
  | deciding (decider : Nat) (response : Response)
      (stage : sending.stage = .deciding decider response) (since before : List Event)
      (history_eq :
        sending.history = since ++ .exchanged sending.loop.current (.ok response) :: before)
      (quiet : own since = []) (follows : sending.loop.current.followRedirects = true)
      (decider_eq : decider = policyAfter policy before)
      (begun_eq : (begun sending.history).length = sending.loop.hops.toNat + 1)
      (named_eq : (named sending.history).length = sending.loop.hops.toNat)
  | finished (result : Except ClientError Response) (stage : sending.stage = .finished result)
      (ends : Ends (limit clients owner) (own sending.history) result)
      (some_begun : begun sending.history ≠ [])
      (few : (named sending.history).length ≤ (limit clients owner).toNat ∨
        sending.Exhausted (limit clients owner))

structure Sound (clients : Nat → Client) (owner policy : Nat) (request : Request)
    (sending : Sending) : Prop where
  consistent : sending.Consistent clients owner policy request
  stands : sending.Stands clients owner policy request

theorem sound_start (clients : Nat → Client) (owner policy : Nat) (request : Request) :
    (start clients owner policy request).Sound clients owner policy request where
  consistent :=
    { grounded := trivial
      limit_eq := rfl
      hops_le := Nat.zero_le _
      policy_eq := rfl
      begun_le := Nat.zero_le _
      begun_le_named := Nat.zero_le _
      unfollowed := fun _ => ⟨rfl, rfl⟩ }
  stands := .ready rfl (.inl ⟨rfl, rfl, rfl⟩) rfl rfl

/-- A send whose current request does not follow redirects has seen no decision. -/
theorem Consistent.named_of_unfollowed
    (consistent : sending.Consistent clients owner policy request)
    (follows_not : request.followRedirects = false) : named sending.history = [] := by
  rw [named, (consistent.unfollowed follows_not).2]
  rfl

/-! ## Events -/

/-- The send records what it does, unless that begins an exchange or is a decision. -/
theorem Consistent.note (consistent : sending.Consistent clients owner policy request)
    (event : Event) (follows : event.Follows owner policy request sending.history)
    (own_event : event.isOwn = true) (begins_not : event.begun? = none)
    (decides_not : event.decision? = none) :
    (sending.note event).Consistent clients owner policy request where
  grounded := ⟨follows, consistent.grounded⟩
  limit_eq := consistent.limit_eq
  hops_le := consistent.hops_le
  policy_eq := consistent.policy_eq.trans (policyAfter_of_own own_event policy).symm
  begun_le := by
    rw [Sending.note, begun_cons_of_none begins_not]
    exact consistent.begun_le
  begun_le_named := by
    rw [Sending.note, begun_cons_of_none begins_not, named_cons_of_none decides_not]
    exact consistent.begun_le_named
  unfollowed := by
    intro follows_not
    rw [Sending.note, decisions_cons_of_none decides_not]
    exact consistent.unfollowed follows_not

/-- The stage of a send plays no part in its consistency. -/
theorem Consistent.setStage (consistent : sending.Consistent clients owner policy request)
    (stage : Stage) : { sending with stage }.Consistent clients owner policy request :=
  { consistent with }

/-- The exchange of the current request ends. -/
theorem Consistent.settle (consistent : sending.Consistent clients owner policy request)
    (begun_eq : (begun sending.history).length = sending.loop.hops.toNat + 1)
    (named_eq : (named sending.history).length = sending.loop.hops.toNat)
    (result : Except ClientError Response) :
    (sending.settle result).Sound clients owner policy request := by
  have noted := consistent.note (.exchanged sending.loop.current result) trivial rfl rfl
    rfl
  have some_begun := List.ne_nil_of_length_eq_add_one begun_eq
  have few : (named sending.history).length ≤ (limit clients owner).toNat :=
    named_eq ▸ consistent.hops_le
  cases result with
  | error error => exact ⟨noted.setStage _, .finished _ rfl .failed some_begun (.inl few)⟩
  | ok response =>
      rw [Sending.settle, SendLoop.afterExchange.eq_def]
      cases follow : sending.loop.current.followRedirects with
      | false =>
          exact ⟨noted.setStage _, .finished _ rfl (.unfollowed follow) some_begun (.inl few)⟩
      | true =>
          exact ⟨noted.setStage _,
            .deciding _ response rfl [] sending.history rfl rfl follow consistent.policy_eq
              begun_eq named_eq⟩

/-! ## Turns -/

theorem Consistent.noteBegan (consistent : sending.Consistent clients owner policy request)
    (due : sending.Due owner request)
    (begun_eq : (begun sending.history).length = sending.loop.hops.toNat)
    (named_eq : (named sending.history).length = sending.loop.hops.toNat) :
    (sending.note (.began sending.client sending.loop.current)).Consistent clients owner policy
      request where
  grounded := by
    refine ⟨?_, consistent.grounded⟩
    rcases due with first | ⟨decider, next, rest, own_eq, current_eq⟩
    · exact .inl first
    · exact .inr ⟨decider, next, rest, own_eq, current_eq⟩
  limit_eq := consistent.limit_eq
  hops_le := consistent.hops_le
  policy_eq := consistent.policy_eq
  begun_le := Nat.succ_le_succ (begun_eq ▸ consistent.hops_le)
  begun_le_named := Nat.succ_le_succ (Nat.le_of_eq (begun_eq.trans named_eq.symm))
  unfollowed := consistent.unfollowed

theorem Consistent.begin (consistent : sending.Consistent clients owner policy request)
    (due : sending.Due owner request)
    (begun_eq : (begun sending.history).length = sending.loop.hops.toNat)
    (named_eq : (named sending.history).length = sending.loop.hops.toNat) :
    sending.begin.Sound clients owner policy request := by
  have noted := consistent.noteBegan due begun_eq named_eq
  have one_more : (begun (.began sending.client sending.loop.current :: sending.history)).length =
      sending.loop.hops.toNat + 1 := congrArg (· + 1) begun_eq
  rw [Sending.begin]
  split
  · exact noted.settle one_more named_eq _
  · have asked := noted.note
      (.asked sending.client sending.loop.current.target.endpoint) trivial rfl rfl rfl
    exact ⟨asked.setStage _, .exchanging (.inl rfl) one_more named_eq⟩

theorem Consistent.receive (consistent : sending.Consistent clients owner policy request)
    (begun_eq : (begun sending.history).length = sending.loop.hops.toNat + 1)
    (named_eq : (named sending.history).length = sending.loop.hops.toNat) (answer : Answer Unit) :
    (sending.receive answer).Sound clients owner policy request := by
  cases answer with
  | error error => exact consistent.settle begun_eq named_eq (.error (.connect error))
  | ok connection =>
      have connected := consistent.note .connected trivial rfl rfl rfl
      rw [Sending.receive]
      split
      · exact connected.settle begun_eq named_eq _
      · exact ⟨connected.setStage _, .exchanging (.inr rfl) begun_eq named_eq⟩

theorem own_append_exchanged {since before : List Event} {current : Request}
    {result : Except ClientError Response} (quiet : own since = []) :
    own (since ++ .exchanged current result :: before) =
      .exchanged current result :: own before := by
  have split : own (since ++ .exchanged current result :: before) =
      own since ++ .exchanged current result :: own before := List.filter_append ..
  rw [split, quiet]
  rfl

theorem Consistent.hops_succ (consistent : sending.Consistent clients owner policy request)
    (limit_lt : (limit clients owner).toNat < UInt32.size - 1) :
    (sending.loop.hops + 1).toNat = sending.loop.hops.toNat + 1 := by
  have hops_le := consistent.hops_le
  have one : (1 : UInt32).toNat = 1 := rfl
  have size : UInt32.size = 2 ^ 32 := rfl
  rw [UInt32.toNat_add]
  omega

/-- A policy decides; what it names, if anything, is the request of a client. -/
theorem Consistent.obey (consistent : sending.Consistent clients owner policy request)
    (limit_lt : (limit clients owner).toNat < UInt32.size - 1)
    {decider : Nat} {response : Response} {since before : List Event}
    (history_eq :
      sending.history = since ++ .exchanged sending.loop.current (.ok response) :: before)
    (quiet : own since = []) (follows : sending.loop.current.followRedirects = true)
    (decider_eq : decider = policyAfter policy before)
    (begun_eq : (begun sending.history).length = sending.loop.hops.toNat + 1)
    (named_eq : (named sending.history).length = sending.loop.hops.toNat)
    (decision : Decision) (client : Nat) :
    (sending.obey decider response decision client).Sound clients owner policy request := by
  have own_eq := congrArg own history_eq
  rw [own_append_exchanged quiet] at own_eq
  have some_begun := List.ne_nil_of_length_eq_add_one begun_eq
  have followed : request.followRedirects = true := by
    rcases Bool.eq_false_or_eq_true request.followRedirects with followed | unfollowed
    · exact followed
    · rw [(consistent.unfollowed unfollowed).1] at follows
      exact follows
  have noted : (sending.note (.decided decider decision client)).Consistent clients owner policy
      request :=
    { consistent with
      grounded := ⟨⟨since, _, response, before, history_eq, quiet, follows, decider_eq⟩,
        consistent.grounded⟩
      begun_le_named := Nat.le_trans consistent.begun_le_named
        (Nat.succ_le_succ (named_le_decided decider decision client sending.history))
      unfollowed := fun unfollowed => Bool.noConfusion (followed.symm.trans unfollowed) }
  have own_decided : own (.decided decider decision client :: sending.history) =
      .decided decider decision client :: .exchanged sending.loop.current (.ok response) ::
        own before := congrArg (Event.decided decider decision client :: ·) own_eq
  have few : (named sending.history).length ≤ (limit clients owner).toNat :=
    named_eq ▸ consistent.hops_le
  cases decision with
  | stay =>
      exact ⟨noted.setStage _, .finished _ rfl (own_decided ▸ .stayed) some_begun (.inl few)⟩
  | refuse error =>
      exact ⟨noted.setStage _, .finished _ rfl (own_decided ▸ .refused) some_begun (.inl few)⟩
  | breakDown payload =>
      exact ⟨noted.setStage _, .finished _ rfl (own_decided ▸ .brokeDown) some_begun (.inl few)⟩
  | next next =>
      have hops_le := consistent.hops_le
      have hops_succ := consistent.hops_succ limit_lt
      rw [Sending.obey, SendLoop.afterDecision]
      by_cases beyond : sending.loop.hops + 1 > sending.loop.limit
      · rw [if_pos beyond]
        have last : sending.loop.hops.toNat = (limit clients owner).toNat := by
          have past := UInt32.lt_iff_toNat_lt.mp beyond
          rw [consistent.limit_eq, hops_succ] at past
          omega
        have enough : (named (own before)).length = (limit clients owner).toNat := by
          have named_before : named (own sending.history) = named (own before) := by
            rw [own_eq]
            rfl
          rw [← named_before, named_own, named_eq, last]
        rw [consistent.limit_eq]
        exact ⟨noted.setStage _, .finished _ rfl (own_decided ▸ .exhausted enough) some_begun
          (.inr ⟨_, _, _, _, _, _, own_decided, rfl⟩)⟩
      · rw [if_neg beyond]
        have within : sending.loop.hops.toNat + 1 ≤ (limit clients owner).toNat := by
          have not_past := mt UInt32.lt_iff_toNat_lt.mpr beyond
          rw [consistent.limit_eq, hops_succ] at not_past
          omega
        refine ⟨{ noted with hops_le := hops_succ ▸ within, unfollowed := ?_ },
          .ready rfl (.inr ⟨decider, next, _, rfl, rfl⟩) ?_ ?_⟩
        · exact fun unfollowed => Bool.noConfusion (followed.symm.trans unfollowed)
        · exact begun_eq.trans hops_succ.symm
        · exact (congrArg (· + 1) named_eq).trans hops_succ.symm

theorem Sound.turn (sound : sending.Sound clients owner policy request)
    (limit_lt : (limit clients owner).toNat < UInt32.size - 1) (outside : Outside) :
    (sending.turn outside).Sound clients owner policy request := by
  have consistent := sound.consistent
  rw [Sending.turn]
  cases sound.stands with
  | ready stage due begun_eq named_eq =>
      rw [stage]
      exact consistent.begin due begun_eq named_eq
  | exchanging stage begun_eq named_eq =>
      rcases stage with stage | stage
      · rw [stage]
        exact consistent.receive begun_eq named_eq outside.answer
      · rw [stage]
        exact consistent.settle begun_eq named_eq _
  | deciding decider response stage since before history_eq quiet follows decider_eq begun_eq
      named_eq =>
      rw [stage]
      exact consistent.obey limit_lt history_eq quiet follows decider_eq begun_eq named_eq
        outside.decision outside.client
  | finished result stage ends some_begun few =>
      rw [stage]
      exact sound

/-! ## What others do -/

/-- What others do between its turns leaves a send where it stands. -/
theorem Stands.surround (stands : sending.Stands clients owner policy request)
    (other : event.isOwn = false) (clients' : Nat → Client) (policy' : Nat) :
    { sending.note event with clients := clients', policy := policy' }.Stands clients owner policy
      request := by
  have same_own : own (event :: sending.history) = own sending.history :=
    List.filter_cons_of_neg (by simp [other])
  have same_begun : begun (event :: sending.history) = begun sending.history := by
    cases event <;> first | rfl | cases other
  have same_named : named (event :: sending.history) = named sending.history := by
    cases event <;> first | rfl | cases other
  cases stands with
  | ready stage due begun_eq named_eq =>
      refine .ready stage ?_ (same_begun ▸ begun_eq) (same_named ▸ named_eq)
      rcases due with ⟨nothing, first⟩ | ⟨decider, next, rest, own_eq, current_eq⟩
      · exact .inl ⟨same_own.trans nothing, first⟩
      · exact .inr ⟨decider, next, rest, same_own.trans own_eq, current_eq⟩
  | exchanging stage begun_eq named_eq =>
      exact .exchanging stage (same_begun ▸ begun_eq) (same_named ▸ named_eq)
  | deciding decider response stage since before history_eq quiet follows decider_eq begun_eq
      named_eq =>
      have still_quiet : own (event :: since) = [] :=
        (List.filter_cons_of_neg (by simp [other])).trans quiet
      exact .deciding decider response stage (event :: since) before
        (congrArg (event :: ·) history_eq) still_quiet follows decider_eq
        (same_begun ▸ begun_eq) (same_named ▸ named_eq)
  | finished result stage ends some_begun few =>
      refine .finished result stage (same_own ▸ ends) (same_begun ▸ some_begun) ?_
      rcases few with few | ⟨decider, next, client, current, response, rest, own_eq, ended⟩
      · exact .inl (same_named ▸ few)
      · exact .inr ⟨decider, next, client, current, response, rest, same_own.trans own_eq, ended⟩

theorem Sound.install (sound : sending.Sound clients owner policy request) (installed : Nat) :
    (sending.step (.install installed)).Sound clients owner policy request where
  consistent :=
    { sound.consistent with
      grounded := ⟨trivial, sound.consistent.grounded⟩
      policy_eq := rfl }
  stands := sound.stands.surround rfl sending.clients installed

theorem Sound.close (sound : sending.Sound clients owner policy request) (closed : Nat) :
    (sending.close closed).Sound clients owner policy request where
  consistent := { sound.consistent with grounded := ⟨trivial, sound.consistent.grounded⟩ }
  stands := sound.stands.surround rfl _ sending.policy

theorem Sound.step (sound : sending.Sound clients owner policy request)
    (limit_lt : (limit clients owner).toNat < UInt32.size - 1) (action : Action) :
    (sending.step action).Sound clients owner policy request := by
  cases action with
  | install policy => exact sound.install policy
  | close client => exact sound.close client
  | turn outside => exact sound.turn limit_lt outside

theorem Sound.run (sound : sending.Sound clients owner policy request)
    (limit_lt : (limit clients owner).toNat < UInt32.size - 1) (actions : List Action) :
    (sending.run actions).Sound clients owner policy request := by
  induction actions generalizing sending with
  | nil => exact sound
  | cons action rest induction => exact induction (sound.step limit_lt action)

end Courier.Sending
