import Courier.Proofs.Sending.Record
import Courier.Proofs.Sending.Round
import Mathlib.Data.List.Forall2

/-!
# Sends and their chains

A send under the standard policy takes the chain of its exchanges: it begins the requests of that
chain and ends with its result.
-/

namespace Courier

/-! ## Chains -/

theorem Chain.behind_behind (chain : Chain) (earlier later : List Request) :
    (chain.behind later).behind earlier = chain.behind (earlier ++ later) := by
  simp [behind]

/-- A chain begins with the current request. -/
theorem Client.requests_chain (client : Client) (loop : SendLoop) (hops : List Hop) :
    (client.chain loop hops).requests =
      loop.current :: (client.chain loop hops).requests.tail := by
  cases hops with
  | nil => rfl
  | cons hop hops =>
      rw [chain]
      split
      · rfl
      · split <;> rfl

/-- What holds of the first request and of all that the policy names holds of a whole chain. -/
theorem Client.chain_forall {client : Client} {holds : Request → Prop} {loop : SendLoop}
    (first : holds loop.current)
    (named : ∀ closed response request,
      { client with closed }.decide response = .next request →
        holds { request with followRedirects := true })
    (hops : List Hop) : ∀ request ∈ (client.chain loop hops).requests, holds request := by
  induction hops generalizing loop with
  | nil => simpa [chain] using first
  | cons hop hops induction =>
      rw [chain]
      split
      · simpa using first
      · rename_i response consulted
        split
        · simpa using first
        · rename_i next goes_on
          obtain ⟨request, decided, rfl⟩ := SendLoop.named_of_exchange goes_on
          have next_holds := named hop.closed response request decided
          exact List.forall_mem_cons.mpr ⟨first, induction next_holds⟩

/-- What holds of all requests that the policy names holds of a chain after its first request. -/
theorem Client.chain_tail_forall {client : Client} {holds : Request → Prop}
    (named : ∀ closed response request,
      { client with closed }.decide response = .next request →
        holds { request with followRedirects := true })
    (loop : SendLoop) (hops : List Hop) :
    ∀ request ∈ (client.chain loop hops).requests.tail, holds request := by
  cases hops with
  | nil => exact List.forall_mem_nil _
  | cons hop hops =>
      rw [chain]
      split
      · exact List.forall_mem_nil _
      · rename_i response consulted
        split
        · exact List.forall_mem_nil _
        · rename_i next goes_on
          obtain ⟨request, decided, rfl⟩ := SendLoop.named_of_exchange goes_on
          have next_holds := named hop.closed response request decided
          exact chain_forall next_holds named hops

namespace Sending

variable {client : Client} {first : SendLoop} {sending : Sending} {owner : Nat}
  {before : List Request} {hops : List Hop}

/-! ## Exchanges -/

def Event.exchanged? : Event → Option (Request × Except ClientError Response)
  | .exchanged request result => some (request, result)
  | _ => none

/-- The exchanges that have ended. -/
def exchanges (history : List Event) : List (Request × Except ClientError Response) :=
  history.filterMap Event.exchanged?

/-- The exchanges have ended as the hops say. -/
def Met (hops : List Hop) (history : List Event) : Prop :=
  List.Forall₂ (fun hop exchange => exchange.2 = hop.outcome.map exchange.1.responseOf)
    hops.reverse (exchanges history)

theorem met_exchanged {history : List Event} (met : Met hops history) (hop : Hop)
    (request : Request) :
    Met (hops ++ [hop])
      (.exchanged request (hop.outcome.map request.responseOf) :: history) := by
  rw [Met, List.reverse_append]
  exact .cons rfl met

/-- The response to a request tells what came of the exchange. -/
theorem outcome_of_responses {request : Request} {outcome other : Except ClientError Http.Reply}
    (same : outcome.map request.responseOf = other.map request.responseOf) : outcome = other := by
  cases outcome with
  | error error =>
      cases other with
      | error other => simpa [Except.map] using same
      | ok reply => simp [Except.map] at same
  | ok reply =>
      cases other with
      | error error => simp [Except.map] at same
      | ok other =>
          obtain ⟨⟨version, status, headers⟩, body⟩ := reply
          obtain ⟨⟨version', status', headers'⟩, body'⟩ := other
          simp only [Except.map, Except.ok.injEq, Request.responseOf, Response.mk.injEq] at same
          obtain ⟨rfl, rfl, rfl, rfl, _⟩ := same
          rfl

/-- Of the hops a record tells all but whether the client was closed. -/
theorem outcomes_of_met {others : List Hop} {history : List Event} (met : Met hops history)
    (met_others : Met others history) : hops.map Hop.outcome = others.map Hop.outcome := by
  let ends (outcome : Except ClientError Http.Reply)
      (exchange : Request × Except ClientError Response) : Prop :=
    exchange.2 = outcome.map exchange.1.responseOf
  have unique : Relator.LeftUnique ends :=
    fun _ _ _ ended ended_too => outcome_of_responses (ended.symm.trans ended_too)
  have told (hops : List Hop) (met : Met hops history) :
      List.Forall₂ ends (hops.map Hop.outcome).reverse (exchanges history) := by
    rw [← List.map_reverse]
    exact List.forall₂_map_left_iff.mpr met
  exact List.reverse_injective
    (List.left_unique_forall₂' unique (told hops met) (told others met_others))

/-! ## Where a send stands on its chain -/

/-- The chain that begins with one send goes on as that of another, after some requests and hops. -/
def Reaches (client : Client) (first : SendLoop) (before : List Request) (hops : List Hop)
    (loop : SendLoop) : Prop :=
  ∀ later, client.chain first (hops ++ later) = (client.chain loop later).behind before

/-- How far a send has come on the chain that begins with its first request. -/
inductive Along (client : Client) (first : SendLoop) (sending : Sending) : Prop where
  | ready (before : List Request) (hops : List Hop) (stage : sending.stage = .ready)
      (begun_eq : begun sending.history = before.reverse) (met : Met hops sending.history)
      (reaches : Reaches client first before hops sending.loop)
  | exchanging (before : List Request) (hops : List Hop)
      (stage : sending.stage = .acquiring ∨ sending.stage = .exchanging)
      (begun_eq : begun sending.history = sending.loop.current :: before.reverse)
      (met : Met hops sending.history)
      (reaches : Reaches client first before hops sending.loop)
  | deciding (before : List Request) (hops : List Hop)
      (outcome : Except ClientError Http.Reply) (decider : Nat) (response : Response)
      (stage : sending.stage = .deciding decider response)
      (consulted : sending.loop.afterExchange (outcome.map sending.loop.current.responseOf) =
        .consult response)
      (begun_eq : begun sending.history = sending.loop.current :: before.reverse)
      (met : ∀ closed, Met (hops ++ [⟨outcome, closed⟩]) sending.history)
      (reaches : Reaches client first before hops sending.loop)
  | finished (hops : List Hop) (result : Except ClientError Response)
      (stage : sending.stage = .finished result) (met : Met hops sending.history)
      (chain_eq : client.chain first hops = ⟨(begun sending.history).reverse, some result⟩)

/-- A send has begun requests of its chain only, and those in their order. -/
theorem Along.begun_isPrefix (along : Along client first sending) :
    ∃ hops, Met hops sending.history ∧
      (begun sending.history).reverse <+: (client.chain first hops).requests := by
  cases along with
  | ready before hops stage begun_eq met reaches =>
      have chain_eq := reaches []
      rw [List.append_nil] at chain_eq
      refine ⟨hops, met, ?_⟩
      rw [begun_eq, List.reverse_reverse, chain_eq]
      exact List.prefix_append before _
  | exchanging before hops stage begun_eq met reaches =>
      have chain_eq := reaches []
      rw [List.append_nil] at chain_eq
      refine ⟨hops, met, ?_⟩
      rw [begun_eq, List.reverse_cons, List.reverse_reverse, chain_eq]
      exact List.prefix_rfl
  | deciding before hops outcome decider response stage consulted begun_eq met reaches =>
      refine ⟨hops ++ [⟨outcome, false⟩], met false, ?_⟩
      rw [begun_eq, List.reverse_cons, List.reverse_reverse, reaches, Chain.behind]
      refine (List.prefix_append_right_inj before).mpr ?_
      rw [Client.requests_chain]
      exact List.prefix_append [sending.loop.current] _
  | finished hops result stage met chain_eq =>
      refine ⟨hops, met, ?_⟩
      rewrite [chain_eq]
      exact List.prefix_rfl

/-- A send has come some way on its chain, and its client is still configured as it was. -/
structure Chained (client : Client) (first : SendLoop) (owner : Nat) (sending : Sending) :
    Prop where
  config_eq : (sending.clients owner).config = client.config
  along : Along client first sending

/-- What others do does not bring a send further. -/
theorem Along.quiet {event : Event} {clients : Nat → Client} {policy : Nat}
    (along : Along client first sending) (begins_not : event.begun? = none)
    (ends_not : event.exchanged? = none) :
    Along client first { sending.note event with clients, policy } := by
  have begun_same : begun (event :: sending.history) = begun sending.history :=
    List.filterMap_cons_none begins_not
  have met_same (hops : List Hop) :
      Met hops (event :: sending.history) ↔ Met hops sending.history := by
    rw [Met, Met, exchanges, List.filterMap_cons_none ends_not]
    rfl
  cases along with
  | ready before hops stage begun_eq met reaches =>
      exact .ready before hops stage (begun_same.trans begun_eq) ((met_same _).mpr met) reaches
  | exchanging before hops stage begun_eq met reaches =>
      exact .exchanging before hops stage (begun_same.trans begun_eq) ((met_same _).mpr met)
        reaches
  | deciding before hops outcome decider response stage consulted begun_eq met reaches =>
      exact .deciding before hops outcome decider response stage consulted
        (begun_same.trans begun_eq) (fun closed => (met_same _).mpr (met closed)) reaches
  | finished hops result stage met chain_eq =>
      refine .finished hops result stage ((met_same _).mpr met) ?_
      rw [chain_eq]
      exact congrArg (fun requests => Chain.mk (List.reverse requests) (some result))
        begun_same.symm

/-! ## Turns -/

/-- An exchange that ends is the next hop of the chain. -/
theorem along_settle (outcome : Except ClientError Http.Reply)
    (begun_eq : begun sending.history = sending.loop.current :: before.reverse)
    (met : Met hops sending.history)
    (reaches : Reaches client first before hops sending.loop) :
    Along client first (sending.settle (outcome.map sending.loop.current.responseOf)) := by
  have met_next (closed : Bool) :=
    met_exchanged met ⟨outcome, closed⟩ sending.loop.current
  rw [settle]
  cases consulted :
    sending.loop.afterExchange (outcome.map sending.loop.current.responseOf) with
  | finished result =>
      refine .finished (hops ++ [⟨outcome, false⟩]) result rfl (met_next false) ?_
      have begun_same : begun (.exchanged sending.loop.current
          (outcome.map sending.loop.current.responseOf) :: sending.history) =
            sending.loop.current :: before.reverse := begun_eq
      rw [reaches, Client.chain, consulted]
      simp [Chain.behind, note, begun_same]
  | consult response =>
      exact .deciding before hops outcome sending.policy response rfl consulted begun_eq met_next
        reaches

theorem along_begin (begun_eq : begun sending.history = before.reverse)
    (met : Met hops sending.history)
    (reaches : Reaches client first before hops sending.loop) :
    Along client first sending.begin := by
  have begun_next : begun (.began sending.client sending.loop.current :: sending.history) =
      sending.loop.current :: before.reverse := congrArg (sending.loop.current :: ·) begun_eq
  rw [begin]
  dsimp only
  split
  · exact along_settle (.error .clientClosed) begun_next met reaches
  · exact .exchanging before hops (.inl rfl) begun_next met reaches

theorem along_receive (answer : Answer Unit)
    (begun_eq : begun sending.history = sending.loop.current :: before.reverse)
    (met : Met hops sending.history)
    (reaches : Reaches client first before hops sending.loop) :
    Along client first (sending.receive answer) := by
  cases answer with
  | error error => exact along_settle (.error (.connect error)) begun_eq met reaches
  | ok connection =>
      rw [receive, Request.afterAnswer]
      cases sending.loop.current.outgoing with
      | error cause => exact along_settle (.error (.invalidArgument cause)) begun_eq met reaches
      | ok outgoing => exact .exchanging before hops (.inr rfl) begun_eq met reaches

/-- Where the standard policy decides, the chain goes on as it has decided. -/
theorem along_obey {outcome : Except ClientError Http.Reply} {response : Response}
    (config_eq : (sending.clients owner).config = client.config)
    (consulted : sending.loop.afterExchange (outcome.map sending.loop.current.responseOf) =
      .consult response)
    (begun_eq : begun sending.history = sending.loop.current :: before.reverse)
    (met : ∀ closed, Met (hops ++ [⟨outcome, closed⟩]) sending.history)
    (reaches : Reaches client first before hops sending.loop)
    (decider : Nat) :
    Along client first
      (sending.obey decider response ((sending.clients owner).decide response) owner) := by
  let hop : Hop := ⟨outcome, (sending.clients owner).closed⟩
  have client_eq : { client with closed := hop.closed } = sending.clients owner := by
    rw [← config_eq]
  rw [obey]
  cases decided :
    sending.loop.afterDecision response ((sending.clients owner).decide response) with
  | finished result =>
      refine .finished (hops ++ [hop]) result rfl (met _) ?_
      have begun_same : begun (.decided decider ((sending.clients owner).decide response) owner ::
          sending.history) = sending.loop.current :: before.reverse := begun_eq
      rw [reaches, Client.chain, consulted]
      dsimp only
      rw [client_eq, decided]
      simp [Chain.behind, note, begun_same]
  | exchange next =>
      refine .ready (before ++ [sending.loop.current]) (hops ++ [hop]) rfl ?_ (met _) ?_
      · rw [List.reverse_append]
        exact begun_eq
      · intro later
        rw [List.append_assoc, List.singleton_append, reaches, Client.chain, consulted]
        dsimp only
        rw [client_eq, decided]
        exact Chain.behind_behind _ _ _

theorem settle_clients (sending : Sending) (result : Except ClientError Response) :
    (sending.settle result).clients = sending.clients := by
  rw [settle]
  split <;> rfl

theorem turn_clients (sending : Sending) (outside : Outside) :
    (sending.turn outside).clients = sending.clients := by
  rw [turn]
  split
  · rw [begin]
    dsimp only
    split
    · exact settle_clients _ _
    · rfl
  · rw [receive.eq_def]
    cases outside.answer with
    | error error => exact settle_clients _ _
    | ok connection =>
        dsimp only
        split
        · exact settle_clients _ _
        · rfl
  · exact settle_clients _ _
  · rw [obey]
    split <;> rfl
  · rfl

theorem config_close (sending : Sending) (closed owner : Nat) :
    ((sending.close closed).clients owner).config = (sending.clients owner).config := by
  rw [close]
  dsimp only
  split <;> rfl

theorem along_turn (config_eq : (sending.clients owner).config = client.config)
    (along : Along client first sending) (outside : Outside) :
    Along client first (sending.step (sending.standard owner (.turn outside))) := by
  rw [standard]
  cases along with
  | ready before hops stage begun_eq met reaches =>
      rw [stage, step, turn, stage]
      exact along_begin begun_eq met reaches
  | exchanging before hops stage begun_eq met reaches =>
      rcases stage with stage | stage
      · rw [stage, step, turn, stage]
        exact along_receive outside.answer begun_eq met reaches
      · rw [stage, step, turn, stage]
        exact along_settle _ begun_eq met reaches
  | deciding before hops outcome decider response stage consulted begun_eq met reaches =>
      rw [stage, step, turn, stage]
      exact along_obey config_eq consulted begun_eq met reaches decider
  | finished hops result stage met chain_eq =>
      rw [stage, step, turn, stage]
      exact .finished hops result stage met chain_eq

theorem config_turn (sending : Sending) (outside : Outside) (owner : Nat) :
    ((sending.step (sending.standard owner (.turn outside))).clients owner).config =
      (sending.clients owner).config := by
  rw [standard]
  split
  · rw [step, turn_clients]
  · rw [step, turn_clients]

theorem Chained.step (chained : sending.Chained client first owner) (action : Action) :
    (sending.step (sending.standard owner action)).Chained client first owner := by
  cases action with
  | install policy => exact ⟨chained.config_eq, chained.along.quiet rfl rfl⟩
  | close closed =>
      exact ⟨(config_close sending closed owner).trans chained.config_eq,
        chained.along.quiet rfl rfl⟩
  | turn outside =>
      exact ⟨(config_turn sending outside owner).trans chained.config_eq,
        along_turn chained.config_eq chained.along outside⟩

theorem Chained.run (chained : sending.Chained client first owner) (actions : List Action) :
    (sending.runStandard owner actions).Chained client first owner := by
  induction actions generalizing sending with
  | nil => exact chained
  | cons action rest induction => exact induction (chained.step action)

theorem chained_start (clients : Nat → Client) (owner policy : Nat) (request : Request) :
    (start clients owner policy request).Chained (clients owner)
      (.start (clients owner) request) owner :=
  ⟨rfl, .ready [] [] rfl rfl .nil fun _ => rfl⟩

/-- A send that has ended under the standard policy has exchanged the requests of the chain that
its exchanges make, and ended with its result, whatever others did meanwhile. -/
theorem chain_of_finished (clients : Nat → Client) (owner policy : Nat) (request : Request)
    (actions : List Action) (result : Except ClientError Response)
    (finished : ((start clients owner policy request).runStandard owner actions).stage =
      .finished result) :
    let sending := (start clients owner policy request).runStandard owner actions
    ∃ hops, Met hops sending.history ∧
      (clients owner).chain (.start (clients owner) request) hops =
        ⟨(begun sending.history).reverse, some result⟩ := by
  intro sending
  have stage_eq : sending.stage = .finished result := finished
  cases ((chained_start clients owner policy request).run actions).along with
  | ready before hops stage => cases stage.symm.trans stage_eq
  | exchanging before hops stage =>
      rcases stage with stage | stage
      · cases stage.symm.trans stage_eq
      · cases stage.symm.trans stage_eq
  | deciding before hops outcome decider response stage => cases stage.symm.trans stage_eq
  | finished hops found stage met chain_eq =>
      cases stage.symm.trans stage_eq
      exact ⟨hops, met, chain_eq⟩

end Sending

end Courier
