import Courier.Chain

/-!
# From one request to the next

A redirect takes a send four turns: it asks its pool, exchanges the request over the connection,
leaves the response to the policy, and goes on with the request that this names.
-/

namespace Courier

/-- Another exchange follows only a request that was named. -/
theorem SendLoop.named_of_exchange {loop next : SendLoop} {response : Response}
    {decision : Decision} (goes_on : loop.afterDecision response decision = .exchange next) :
    ∃ request, decision = .next request ∧
      next = { loop with
        hops := loop.hops + 1
        current := { request with followRedirects := true } } := by
  cases decision with
  | stay => cases goes_on
  | refuse error => cases goes_on
  | breakDown payload => cases goes_on
  | next request =>
      rw [afterDecision] at goes_on
      split at goes_on
      · cases goes_on
      · cases goes_on
        exact ⟨request, rfl, rfl⟩

namespace Sending

variable {sending : Sending} {outside : Outside} {response : Response} {next : Request}

/-! ## The stages of a round -/

/-- The pool has been asked. -/
def awaiting (sending : Sending) : Sending :=
  { sending with
    stage := .acquiring
    history := .asked sending.client sending.loop.current.target.endpoint ::
      .began sending.client sending.loop.current :: sending.history }

/-- There is a connection. -/
def connected (sending : Sending) : Sending :=
  { sending with stage := .exchanging, history := .connected :: sending.awaiting.history }

/-- There is a response, and the policy is asked. -/
def responded (sending : Sending) (response : Response) : Sending :=
  { sending with
    stage := .deciding sending.policy response
    history := .exchanged sending.loop.current (.ok response) :: sending.connected.history }

/-- The policy has named a request of a client. -/
def redirected (sending : Sending) (response : Response) (next : Request) (client : Nat) :
    Sending :=
  { sending with
    loop :=
      { sending.loop with
        hops := sending.loop.hops + 1
        current := { next with followRedirects := true } }
    client
    stage := .ready
    history :=
      .decided sending.policy (.next next) client :: (sending.responded response).history }

/-! ## Turns -/

/-- A send is about to exchange a request that follows redirects. -/
structure Launched (sending : Sending) : Prop where
  stage : sending.stage = .ready
  follows : sending.loop.current.followRedirects = true

/-- What the peer's speech amounts to as an end of the current exchange. -/
def heard (sending : Sending) (speech : Speech) : Except ClientError Response :=
  let request := sending.loop.current
  (speech.outcome ((sending.clients sending.client).readingTerms request)).map request.responseOf

/-- The exchange comes to a response that is left to the policy. -/
structure Responds (sending : Sending) (outside : Outside) (response : Response) : Prop where
  launched : sending.Launched
  is_open : (sending.clients sending.client).closed = false
  writable : ∃ written, sending.loop.current.outgoing = .ok written
  answered : outside.answer = .ok ()
  heard_eq : sending.heard outside.speech = .ok response

theorem Launched.turn_of_open (launched : sending.Launched)
    (is_open : (sending.clients sending.client).closed = false) (outside : Outside) :
    sending.turn outside = sending.awaiting := by
  rw [turn, launched.stage]
  change sending.begin = sending.awaiting
  rw [begin, if_neg (by simp [is_open])]
  rfl

theorem awaiting_turn (writable : ∃ written, sending.loop.current.outgoing = .ok written)
    (answered : outside.answer = .ok ()) :
    sending.awaiting.turn outside = sending.connected := by
  obtain ⟨written, outgoing_eq⟩ := writable
  have still_writable : sending.awaiting.loop.current.outgoing = .ok written := outgoing_eq
  change sending.awaiting.receive outside.answer = sending.connected
  rw [answered, receive, Request.afterAnswer, still_writable]
  rfl

theorem connected_turn (follows : sending.loop.current.followRedirects = true)
    (heard_eq : sending.heard outside.speech = .ok response) :
    sending.connected.turn outside = sending.responded response := by
  have still_follows : sending.connected.loop.current.followRedirects = true := follows
  change sending.connected.settle (sending.heard outside.speech) = sending.responded response
  rw [heard_eq, settle, SendLoop.afterExchange, if_pos still_follows]
  rfl

/-- A redirect within the limit is followed. -/
theorem obey_of_within (within : ¬sending.loop.hops + 1 > sending.loop.limit) (decider : Nat)
    (response : Response) (next : Request) (client : Nat) :
    sending.obey decider response (.next next) client =
      { sending.note (.decided decider (.next next) client) with
        loop :=
          { sending.loop with
            hops := sending.loop.hops + 1
            current := { next with followRedirects := true } }
        client
        stage := .ready } := by
  rw [obey, SendLoop.afterDecision, if_neg within]

theorem obey_responded (within : ¬sending.loop.hops + 1 > sending.loop.limit)
    (response : Response) (next : Request) (client : Nat) :
    (sending.responded response).obey sending.policy response (.next next) client =
      sending.redirected response next client := by
  have still_within :
      ¬(sending.responded response).loop.hops + 1 > (sending.responded response).loop.limit :=
    within
  exact obey_of_within still_within _ _ _ _

/-! ## Rounds -/

/-- Three turns bring a response. -/
theorem Responds.run (responds : sending.Responds outside response) :
    sending.run (List.replicate 3 (.turn outside)) = sending.responded response := by
  change ((sending.turn outside).turn outside).turn outside = _
  rw [responds.launched.turn_of_open responds.is_open,
    awaiting_turn responds.writable responds.answered,
    connected_turn responds.launched.follows responds.heard_eq]

/-- A fourth turn follows the redirect. -/
theorem Responds.run_redirected (responds : sending.Responds outside response)
    (within : ¬sending.loop.hops + 1 > sending.loop.limit)
    (named : outside.decision = .next next) :
    sending.run (List.replicate 4 (.turn outside)) =
      sending.redirected response next outside.client := by
  change (sending.run (List.replicate 3 (.turn outside))).turn outside = _
  rw [responds.run]
  change (sending.responded response).obey _ _ outside.decision outside.client = _
  rw [named, obey_responded within]

/-- The standard policy has a say only where a policy is asked. -/
theorem runStandard_turn
    (undecided : ∀ decider response, sending.stage ≠ .deciding decider response) (owner : Nat)
    (outside : Outside) (rest : List Action) :
    sending.runStandard owner (.turn outside :: rest) =
      (sending.turn outside).runStandard owner rest := by
  have as_told : sending.standard owner (.turn outside) = .turn outside := by
    rw [standard]
    cases stage : sending.stage with
    | deciding decider response => exact absurd stage (undecided decider response)
    | _ => rfl
  rw [runStandard, List.foldl_cons, as_told]
  rfl

/-- Four turns take a send from one request to the next, where the standard policy names one. -/
theorem runStandard_round (sending : Sending) (owner : Nat) (outside : Outside)
    {written : Http.Outgoing} {reply : Http.Reply} {next : Request}
    (stage : sending.stage = .ready)
    (is_open : (sending.clients sending.client).closed = false)
    (writable : sending.loop.current.outgoing = .ok written) (answer : outside.answer = .ok ())
    (spoken : outside.speech.outcome
      ((sending.clients sending.client).readingTerms sending.loop.current) = .ok reply)
    (follows : sending.loop.current.followRedirects = true)
    (decided : (sending.clients owner).decide (sending.loop.current.responseOf reply) = .next next)
    (within : ¬sending.loop.hops + 1 > sending.loop.limit) :
    sending.runStandard owner (List.replicate 4 (.turn outside)) =
      sending.redirected (sending.loop.current.responseOf reply) next owner := by
  have launched : sending.Launched := ⟨stage, follows⟩
  have heard_eq := congrArg (Except.map sending.loop.current.responseOf) spoken
  change sending.runStandard owner
    [.turn outside, .turn outside, .turn outside, .turn outside] = _
  rw [runStandard_turn (by simp [stage]), launched.turn_of_open is_open,
    runStandard_turn (by simp [awaiting]), awaiting_turn ⟨written, writable⟩ answer,
    runStandard_turn (by simp [connected]), connected_turn follows heard_eq]
  change (sending.responded _).obey _ _ ((sending.clients owner).decide _) owner = _
  rw [decided, obey_responded within]

end Sending

end Courier
