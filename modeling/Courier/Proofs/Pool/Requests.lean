import Courier.Proofs.Pool.Frames
import Courier.Proofs.Pool.Reasons

/-!
# What becomes of a request

Three things happen to a requester: it does something itself or its context does, its task has a
turn, or it is new.  Through all of them its request is settled once, it gets the answer that it
was settled with, and it is told that it was abandoned only if it has given up or its context was
closed.
-/

namespace Courier

variable {service : Service} {action : Service.Action} {requester told : Requester}
  {closed closed' : List Nat} {own : List Settlement} {settlement : Settlement} {turn : TcpPool.Turn}
  {actions : List Service.Action} {dialed : Dialed}

namespace Service

/-- What an action that is neither a turn nor a submission makes of a requester. -/
inductive Shift (service : Service) : Action → Requester → Requester → Prop
  | stays (action : Action) (requester : Requester) : Shift service action requester requester
  | cancels (requester : Requester) : Shift service (.cancel requester.id) requester
      { requester with handoff := requester.handoff.cancel }
  | forsakes (requester : Requester) : Shift service (.forsake requester.id) requester
      { requester with handoff := requester.handoff.dropReceiver.1 }
  | delivers (requester : Requester) : Shift service (.deliver requester.id) requester
      { requester with handoff := requester.handoff.publish.1 }
  | discards (requester : Requester) {answer : Answer Nat}
      (in_flight : requester.handoff.sender = .inFlight answer)
      (refused : service.route requester.context = .refused) :
      Shift service (.discard requester.id) requester
        { requester with handoff := requester.handoff.dropSender.1 }
  | looks (requester : Requester) {answer : Answer Nat} (first : requester.outcome = none)
      (ready : requester.handoff.poll = .ready answer) :
      Shift service (.look requester.id) requester
        { requester with handoff := requester.handoff.take.1, outcome := some answer }

theorem mem_updateRequester {id : Nat} {change : Requester → Requester}
    (mem : told ∈ (service.updateRequester id change).requesters) :
    told ∈ service.requesters ∨
      ∃ requester ∈ service.requesters, requester.id = id ∧ told = change requester := by
  obtain ⟨requester, requester_mem, rfl⟩ := List.mem_map.mp mem
  split
  · rename_i same_id
    exact Or.inr ⟨requester, requester_mem, eq_of_beq same_id, rfl⟩
  · exact Or.inl requester_mem

theorem mem_changeHandoff_cases {id : Nat}
    {change : Handoff Nat → Handoff Nat × Option (Answer Nat)}
    (mem : told ∈ (service.changeHandoff id change).requesters) :
    told ∈ service.requesters ∨
      ∃ requester ∈ service.requesters, requester.id = id ∧
        told = { requester with handoff := (change requester.handoff).1 } := by
  rw [changeHandoff_requesters] at mem
  exact mem_updateRequester mem

theorem Valid.look_shift (valid : service.Valid) {id : Nat}
    (mem : told ∈ (service.look id).requesters) :
    ∃ requester ∈ service.requesters, service.Shift (.look id) requester told := by
  have unchanged : told ∈ service.requesters →
      ∃ requester ∈ service.requesters, service.Shift (.look id) requester told :=
    fun told_mem => ⟨told, told_mem, .stays _ told⟩
  rw [Service.look] at mem
  split at mem
  · exact unchanged mem
  · rename_i found_requester found
    obtain ⟨found_mem, found_id⟩ := mem_of_requester found
    split at mem
    · exact unchanged mem
    · rename_i goes_on
      split at mem
      · exact unchanged mem
      · rename_i handoff answer taken
        rcases mem_updateRequester mem with old | ⟨requester, requester_mem, rfl, rfl⟩
        · exact unchanged old
        · obtain rfl := Identity.eq_of_identity valid.roster.distinct requester_mem found_mem
            found_id.symm
          have first : requester.outcome = none := by
            cases outcome : requester.outcome with
            | none => rfl
            | some answer => simp [outcome] at goes_on
          have handoff_eq : handoff = requester.handoff.take.1 :=
            (congrArg Prod.fst taken).symm
          rw [handoff_eq]
          exact ⟨requester, requester_mem, .looks requester first (congrArg Prod.snd taken)⟩

theorem Valid.discard_shift (valid : service.Valid) {id : Nat}
    (mem : told ∈ (service.discard id).requesters) :
    ∃ requester ∈ service.requesters, service.Shift (.discard id) requester told := by
  have unchanged : told ∈ service.requesters →
      ∃ requester ∈ service.requesters, service.Shift (.discard id) requester told :=
    fun told_mem => ⟨told, told_mem, .stays _ told⟩
  rw [Service.discard] at mem
  split at mem
  · exact unchanged mem
  · rename_i found_requester found
    obtain ⟨found_mem, found_id⟩ := mem_of_requester found
    split at mem
    · rename_i answer in_flight refused
      rcases mem_changeHandoff_cases mem with old | ⟨requester, requester_mem, rfl, rfl⟩
      · exact unchanged old
      · obtain rfl := Identity.eq_of_identity valid.roster.distinct requester_mem found_mem
          found_id.symm
        exact ⟨requester, requester_mem, .discards requester in_flight refused⟩
    · exact unchanged mem

/-- Unless a task has a turn or a request comes in, every requester is one that was there before
and has done something, or its context has. -/
theorem Valid.step_shift (valid : service.Valid)
    (no_turn : ∀ request look dialed, action ≠ .serve request look dialed)
    (no_request : ∀ runtime endpoint protocol context,
      action ≠ .submit runtime endpoint protocol context)
    (mem : told ∈ (service.step action).requesters) :
    ∃ requester ∈ service.requesters, service.Shift action requester told := by
  have unchanged : told ∈ service.requesters →
      ∃ requester ∈ service.requesters, service.Shift action requester told :=
    fun told_mem => ⟨told, told_mem, .stays _ told⟩
  cases action with
  | submit runtime endpoint protocol context =>
      exact absurd rfl (no_request runtime endpoint protocol context)
  | serve request look dialed => exact absurd rfl (no_turn request look dialed)
  | cancel request =>
      rcases mem_changeHandoff_cases mem with old | ⟨requester, requester_mem, rfl, rfl⟩
      · exact unchanged old
      · exact ⟨requester, requester_mem, .cancels requester⟩
  | forsake request =>
      rcases mem_changeHandoff_cases mem with old | ⟨requester, requester_mem, rfl, rfl⟩
      · exact unchanged old
      · exact ⟨requester, requester_mem, .forsakes requester⟩
  | deliver request =>
      rcases mem_changeHandoff_cases mem with old | ⟨requester, requester_mem, rfl, rfl⟩
      · exact unchanged old
      · exact ⟨requester, requester_mem, .delivers requester⟩
  | look request => exact valid.look_shift mem
  | discard request => exact valid.discard_shift mem
  | dropConnection connection =>
      rw [Service.step] at mem
      split at mem
      · rw [dropConnection_requesters] at mem
        exact unchanged mem
      · exact unchanged mem
  | closeContext context => exact unchanged mem
  | shutdown => exact unchanged mem

/-- What no such action changes about a requester. -/
structure Keeps (requester told : Requester) : Prop where
  id_eq : told.id = requester.id
  context_eq : told.context = requester.context
  answer_eq : told.answer = requester.answer
  held_iff : told.handoff.sender = .held ↔ requester.handoff.sender = .held
  still_cancelled : requester.handoff.isCancelled = true → told.handoff.isCancelled = true

theorem Shift.keeps (shift : service.Shift action requester told) : Keeps requester told := by
  cases shift with
  | stays => exact ⟨rfl, rfl, rfl, Iff.rfl, fun cancelled => cancelled⟩
  | cancels => exact ⟨rfl, rfl, rfl, Iff.rfl, fun _ => rfl⟩
  | forsakes => exact ⟨rfl, rfl, rfl, Iff.rfl, fun _ => rfl⟩
  | delivers =>
      refine ⟨rfl, rfl, rfl, requester.handoff.publish_held_iff, fun cancelled => ?_⟩
      rw [requester.handoff.publish_isCancelled]
      exact cancelled
  | discards _ in_flight refused =>
      refine ⟨rfl, rfl, rfl, ?_, fun cancelled => ?_⟩
      · simp [Handoff.dropSender_sender, in_flight]
      · rw [requester.handoff.dropSender_isCancelled]
        exact cancelled
  | looks =>
      refine ⟨rfl, rfl, rfl, by rw [Handoff.take_sender], fun cancelled => ?_⟩
      rw [requester.handoff.take_isCancelled]
      exact cancelled

end Service

/-! ## Settled once -/

/-- How far a pool is with a request that it has settled in these ways: it has still to answer, or
it has done so once, and kept the request silent only if nobody wants it any more. -/
inductive Requester.Dealt (requester : Requester) : List Settlement → Prop
  | waits (held : requester.handoff.sender = .held) : Dealt requester []
  | settled {settlement : Settlement} (not_held : requester.handoff.sender ≠ .held)
      (answer_eq : requester.answer = settlement.answer?)
      (idle : settlement.isIdle = true → requester.handoff.isCancelled = true) :
      Dealt requester [settlement]

theorem Requester.Dealt.shift (dealt : requester.Dealt own)
    (keeps : Service.Keeps requester told) : told.Dealt own := by
  cases dealt with
  | waits held => exact .waits (keeps.held_iff.mpr held)
  | settled not_held answer_eq idle =>
      exact .settled (fun held => not_held (keeps.held_iff.mp held))
        (keeps.answer_eq.trans answer_eq) fun is_idle => keeps.still_cancelled (idle is_idle)

theorem Requester.Dealt.eq_nil (dealt : requester.Dealt own)
    (held : requester.handoff.sender = .held) : own = [] := by
  cases dealt with
  | waits => rfl
  | settled not_held => exact absurd held not_held

/-! ## Abandoned for a reason -/

/-- A requester may be told that its request was abandoned: it has given up, or its context was
closed. -/
def Requester.Excused (requester : Requester) (closed : List Nat) : Prop :=
  requester.handoff.isCancelled = true ∨ ∃ context ∈ closed, requester.context = some context

theorem Requester.Excused.mono (excused : requester.Excused closed)
    (grows : ∀ context ∈ closed, context ∈ closed') : requester.Excused closed' :=
  excused.imp_right fun ⟨context, mem, same⟩ => ⟨context, grows context mem, same⟩

theorem Requester.Excused.shift (excused : requester.Excused closed)
    (keeps : Service.Keeps requester told) : told.Excused closed :=
  excused.imp keeps.still_cancelled fun ⟨context, mem, same⟩ =>
    ⟨context, mem, keeps.context_eq.trans same⟩

theorem Requester.excused_of_refused (refused : service.route requester.context = .refused) :
    requester.Excused service.closedContexts := by
  cases context : requester.context with
  | none =>
      rw [context, Service.route] at refused
      cases refused
  | some closed_context =>
      rw [context, Service.route] at refused
      split at refused
      · rename_i contained
        exact Or.inr ⟨closed_context, by simpa using contained, context⟩
      · cases refused

/-- A requester is told that its request was abandoned only if it is excused. -/
structure Requester.Candid (requester : Requester) (closed : List Nat) : Prop where
  carried : requester.handoff.carried? ≠ some (.error .abandoned)
  /-- Nothing will come any more. -/
  ended : requester.handoff.sender = .gone → requester.handoff.arrived = none →
    requester.outcome = none → requester.Excused closed
  outcome : requester.outcome = some (.error .abandoned) → requester.Excused closed

theorem Requester.Candid.mono (candid : requester.Candid closed)
    (grows : ∀ context ∈ closed, context ∈ closed') : requester.Candid closed' where
  carried := candid.carried
  ended := fun gone nothing first => (candid.ended gone nothing first).mono grows
  outcome := fun abandoned => (candid.outcome abandoned).mono grows

/-- Whoever is excused is told no lie, as long as nothing false is under way. -/
theorem Requester.Candid.of_excused (excused : requester.Excused closed)
    (carried : requester.handoff.carried? ≠ some (.error .abandoned)) :
    requester.Candid closed :=
  ⟨carried, fun _ _ _ => excused, fun _ => excused⟩

theorem Handoff.Passes.no_lie {handoff : Handoff Nat}
    {after : Handoff Nat × Option (Answer Nat)} (passes : handoff.Passes after)
    {answer : Answer Nat} (carried : handoff.carried? ≠ some answer) :
    after.1.carried? ≠ some answer := by
  rcases passes.carried with ⟨_, same⟩ | ⟨_, nothing⟩
  · rw [same]
    exact carried
  · rw [nothing]
    simp

theorem Requester.Candid.shift (candid : requester.Candid service.closedContexts)
    (proper : requester.handoff.Proper) (shift : service.Shift action requester told) :
    told.Candid service.closedContexts := by
  have keeps := shift.keeps
  cases shift with
  | stays => exact candid
  | cancels => exact .of_excused (Or.inl rfl) candid.carried
  | forsakes => exact .of_excused (Or.inl rfl) (proper.dropReceiver.no_lie candid.carried)
  | discards _ in_flight refused =>
      exact .of_excused ((Requester.excused_of_refused refused).shift keeps)
        (proper.dropSender.no_lie candid.carried)
  | delivers =>
      refine ⟨proper.publish.no_lie candid.carried, ?_,
        fun abandoned => (candid.outcome abandoned).shift keeps⟩
      intro gone nothing first
      cases sender : requester.handoff.sender with
      | held =>
          have published : requester.handoff.publish.1.sender = .held :=
            requester.handoff.publish_held_iff.mpr sender
          cases published.symm.trans gone
      | gone =>
          rw [Handoff.publish_of_gone sender] at nothing
          exact (candid.ended sender nothing first).shift keeps
      | inFlight answer =>
          cases cancelled : requester.handoff.isCancelled with
          | true => exact Or.inl (keeps.still_cancelled cancelled)
          | false =>
              rw [Handoff.publish_of_wanted sender cancelled] at nothing
              cases nothing
  | looks _ first ready =>
      rename_i answer
      have still_carried : requester.handoff.take.1.carried? ≠ some (.error .abandoned) := by
        rcases requester.handoff.take_carried with same | nothing
        · rw [same]
          exact candid.carried
        · rw [nothing]
          simp
      refine ⟨still_carried, fun _ _ unseen => absurd unseen (by simp), ?_⟩
      intro abandoned
      obtain rfl := Option.some.inj abandoned
      cases cancelled : requester.handoff.isCancelled with
      | true => exact Or.inl (keeps.still_cancelled cancelled)
      | false =>
          rcases proper.of_ready cancelled ready with carries | ⟨_, gone, nothing⟩
          · exact absurd carries candid.carried
          · exact (candid.ended gone nothing first).shift keeps

/-! ## New requests and turns -/

/-- No dial has come to nothing by being abandoned: the network does not say so. -/
def Service.Genuine (actions : List Service.Action) : Prop :=
  ∀ request look, Service.Action.serve request look (.failed .abandoned) ∉ actions

/-- Somebody has given up a request. -/
def Service.GivenUp (actions : List Service.Action) (request : Nat) : Prop :=
  .cancel request ∈ actions ∨ .forsake request ∈ actions

theorem Service.GivenUp.append {request : Nat} (given_up : Service.GivenUp actions request)
    (action : Service.Action) : Service.GivenUp (actions ++ [action]) request :=
  given_up.imp (List.mem_append_left _) (List.mem_append_left _)

theorem Service.Genuine.of_append (genuine : Service.Genuine (actions ++ [action])) :
    Service.Genuine actions :=
  fun request look mem => genuine request look (List.mem_append_left _ mem)

/-- What is known of a requester after some actions, its request having been settled in these
ways. -/
structure Requester.Booked (requester : Requester) (closed : List Nat)
    (actions : List Service.Action) (own : List Settlement) : Prop where
  dealt : requester.Dealt own
  given_up : requester.handoff.isCancelled = true → Service.GivenUp actions requester.id
  candid : Service.Genuine actions → requester.Candid closed

namespace Requester.Booked

variable {connection : Nat}

theorem grow (booked : requester.Booked closed actions own)
    (grows : ∀ context ∈ closed, context ∈ closed') : requester.Booked closed' actions own where
  dealt := booked.dealt
  given_up := booked.given_up
  candid := fun genuine => (booked.candid genuine).mono grows

theorem later (booked : requester.Booked closed actions own) (action : Service.Action) :
    requester.Booked closed (actions ++ [action]) own where
  dealt := booked.dealt
  given_up := fun cancelled => (booked.given_up cancelled).append action
  candid := fun genuine => booked.candid genuine.of_append

theorem shift (booked : requester.Booked service.closedContexts actions own)
    (proper : requester.handoff.Proper) (shift : service.Shift action requester told) :
    told.Booked service.closedContexts (actions ++ [action]) own where
  dealt := booked.dealt.shift shift.keeps
  given_up := by
    intro cancelled
    have now : action ∈ actions ++ [action] := List.mem_append_right _ List.mem_cons_self
    have earlier : requester.handoff.isCancelled = true →
        Service.GivenUp (actions ++ [action]) requester.id :=
      fun before => (booked.given_up before).append action
    cases shift with
    | stays => exact earlier cancelled
    | cancels => exact Or.inl now
    | forsakes => exact Or.inr now
    | delivers => exact earlier (requester.handoff.publish_isCancelled.symm.trans cancelled)
    | discards => exact earlier (requester.handoff.dropSender_isCancelled.symm.trans cancelled)
    | looks => exact earlier (requester.handoff.take_isCancelled.symm.trans cancelled)
  candid := fun genuine => (booked.candid genuine.of_append).shift proper shift

/-- A requester whose request a task is to serve. -/
theorem spawn (id : Nat) (endpoint : Endpoint) (context : Option Nat) :
    ({ id, endpoint, context } : Requester).Booked closed actions [] where
  dealt := .waits rfl
  given_up := fun cancelled => absurd cancelled Bool.false_ne_true
  candid := fun _ => by
    refine ⟨?_, ?_, ?_⟩
    · exact fun abandoned => by cases abandoned
    · exact fun gone => by cases gone
    · exact fun abandoned => by cases abandoned

/-- A requester whose request fails at once. -/
theorem refuse (id : Nat) (endpoint : Endpoint) (context : Option Nat) {error : ConnectError}
    (told : error ≠ .abandoned) :
    let resolved := ({} : Handoff Nat).resolve (service.route context) (.error error)
    ({ id, endpoint, context, handoff := resolved.1
       answer := some (.error error) } : Requester).Booked service.closedContexts actions
      [.reported error resolved.2.accepted] := by
  intro resolved
  have not_cancelled : resolved.1.isCancelled = false := Handoff.resolve_isCancelled _ _ _
  have accepted : resolved.2.accepted = true := Handoff.resolve_accepted _ _ _
  refine ⟨.settled (Handoff.resolve_sender_ne_held _ _ _) ?_ ?_, ?_, fun _ => ⟨?_, ?_, ?_⟩⟩
  · rw [Settlement.answer?, accepted]
    rfl
  · exact fun idle => absurd idle Bool.false_ne_true
  · exact fun cancelled => absurd (not_cancelled.symm.trans cancelled) Bool.false_ne_true
  · have carried : resolved.1.carried? = if resolved.2.kept then some (.error error) else none :=
      Handoff.resolve_carried _ _ Handoff.proper_new rfl
    dsimp only
    rw [carried]
    split <;> simp [told]
  · intro gone nothing _
    rcases Handoff.resolve_ended _ _ _ gone nothing with cancelled | refused
    · cases cancelled
    · exact Requester.excused_of_refused refused
  · exact fun abandoned => by cases abandoned

/-- A requester whose task has had a turn that did not settle its request. -/
theorem wait (booked : requester.Booked closed actions own)
    (unsettled : turn.handoff = requester.handoff)
    (nothing : turn.result.settlement? connection = none) (begun : Bool)
    (action : Service.Action) :
    (requester.afterTurn connection turn begun).Booked closed (actions ++ [action]) own := by
  have same_answer : (requester.afterTurn connection turn begun).answer = requester.answer := by
    rw [Requester.afterTurn, turn.result.answer_of_settlement, nothing]
    rfl
  obtain ⟨_, pool_handoff, result⟩ := turn
  obtain rfl : pool_handoff = requester.handoff := unsettled
  refine ⟨?_, fun cancelled => (booked.given_up cancelled).append action, fun genuine => ?_⟩
  · cases booked.dealt with
    | waits held => exact .waits held
    | settled not_held answer_eq idle =>
        exact .settled not_held (same_answer.trans answer_eq) idle
  · have candid := booked.candid genuine.of_append
    exact ⟨candid.carried, candid.ended, candid.outcome⟩

/-- A requester whose task has had a turn that settled its request. -/
theorem settle {pool : TcpPool}
    (booked : requester.Booked service.closedContexts actions own)
    (settles : pool.Settles requester.handoff (service.route requester.context) dialed turn
      settlement)
    (settlement_eq : turn.result.settlement? connection = some settlement)
    (unanswered : requester.answer = none) (begun : Bool) (look : TcpPool.FirstLook) :
    (requester.afterTurn connection turn begun).Booked service.closedContexts
      (actions ++ [.serve requester.id look dialed]) [settlement] := by
  have still_cancelled := settles.cancelled_eq
  refine ⟨.settled settles.not_held ?_ ?_, ?_, fun genuine => ⟨?_, ?_, ?_⟩⟩
  · rw [Requester.afterTurn, unanswered, Option.or_none, turn.result.answer_of_settlement,
      settlement_eq]
    rfl
  · exact fun is_idle => still_cancelled.trans (settles.idle is_idle)
  · exact fun cancelled =>
      (booked.given_up (still_cancelled.symm.trans cancelled)).append _
  · intro abandoned
    have said := settles.carried abandoned
    rw [said] at genuine
    exact genuine requester.id look (List.mem_append_right _ List.mem_cons_self)
  · intro gone nothing _
    rcases settles.ended gone nothing with cancelled | refused
    · exact Or.inl (still_cancelled.trans cancelled)
    · rcases Requester.excused_of_refused refused with cancelled | closed
      · exact Or.inl (still_cancelled.trans cancelled)
      · exact Or.inr closed
  · intro abandoned
    rcases (booked.candid genuine.of_append).outcome abandoned with cancelled | closed
    · exact Or.inl (still_cancelled.trans cancelled)
    · exact Or.inr closed

end Requester.Booked

end Courier
