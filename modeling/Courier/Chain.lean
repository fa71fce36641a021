import Courier.Sending

/-!
# Chains of redirects

What a send under the standard policy comes to, told from how its exchanges end: one request is
exchanged after the other, until the result is known.
-/

namespace Courier

/-- What a send meets with at one of its exchanges. -/
structure Hop where
  /-- How the exchange ends. -/
  outcome : Except ClientError Http.Reply
  /-- Whether the client is closed when the policy is asked. -/
  closed : Bool := false

/-- The requests that are exchanged and what comes of them. -/
structure Chain where
  /-- The requests, the first one first. -/
  requests : List Request
  /-- The result, unless the last exchange has not ended. -/
  result : Option (Except ClientError Response)

/-- A chain that follows other requests. -/
def Chain.behind (chain : Chain) (earlier : List Request) : Chain :=
  { chain with requests := earlier ++ chain.requests }

/-- The chain of a send of a client whose exchanges end in a row of ways. -/
def Client.chain (client : Client) (loop : SendLoop) : List Hop → Chain
  | [] => ⟨[loop.current], none⟩
  | hop :: hops =>
    match loop.afterExchange (hop.outcome.map loop.current.responseOf) with
    | .finished result => ⟨[loop.current], some result⟩
    | .consult response =>
      match loop.afterDecision response ({ client with closed := hop.closed }.decide response) with
      | .finished result => ⟨[loop.current], some result⟩
      | .exchange next => (client.chain next hops).behind [loop.current]

namespace Sending

/-- An action where the standard policy is asked: it decides by itself. -/
def standard (owner : Nat) (sending : Sending) : Action → Action
  | .turn outside =>
    match sending.stage with
    | .deciding _ response =>
      .turn { outside with decision := (sending.clients owner).decide response, client := owner }
    | _ => .turn outside
  | action => action

/-- What actions make of a send under the standard policy. -/
def runStandard (owner : Nat) (sending : Sending) (actions : List Action) : Sending :=
  actions.foldl (fun sending action => sending.step (sending.standard owner action)) sending

end Sending

end Courier
