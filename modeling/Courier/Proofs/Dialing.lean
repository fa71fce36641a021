import Courier.Proofs.Opening.Sound
import Courier.Proofs.Redirect
import Courier.Proofs.Sending.Chain
import Courier.Proofs.Url.Unbracketed

/-!
# Hosts that are dialed

A host may be written with brackets, but the host that a pool is asked to dial has none.  The one
exception is the host of a proxy, which is dialed as it is configured.
-/

namespace Courier

open Http (Headers)

/-! ## Hosts in writing -/

/-- A host as it may be written: without brackets or between one pair of them. -/
def WrittenHost (host : String) : Prop :=
  ∃ inner, Unbracketed inner ∧ (host = inner ∨ host = "[" ++ inner ++ "]")

theorem WrittenHost.unbracketed {host : String} (written : WrittenHost host) :
    Unbracketed (bareHost host) := by
  obtain ⟨inner, unbracketed, rfl | rfl⟩ := written
  · rwa [bareHost_of_unbracketed unbracketed]
  · rwa [bareHost_of_brackets]

/-! ## Requests -/

/-- An endpoint that a client may ask for: its host is bare, or it is that of the proxy. -/
structure DialedBare (client : Client) (endpoint : Endpoint) : Prop where
  direct : client.tunnelFor? endpoint.secure = none → Unbracketed endpoint.host
  tunnelled : ∀ tunnel, client.tunnelFor? endpoint.secure = some tunnel →
    endpoint.host = tunnel.proxy.host

theorem DialedBare.unbracketed_iff {client : Client} {endpoint : Endpoint}
    (dialed : DialedBare client endpoint) :
    Unbracketed endpoint.host ↔
      ∀ tunnel, client.tunnelFor? endpoint.secure = some tunnel →
        Unbracketed tunnel.proxy.host := by
  constructor
  · intro unbracketed tunnel route
    rwa [← dialed.tunnelled tunnel route]
  · intro proxy_bare
    cases route : client.tunnelFor? endpoint.secure with
    | none => exact dialed.direct route
    | some tunnel =>
        rw [dialed.tunnelled tunnel route]
        exact proxy_bare tunnel route

/-- A request that a client has made of a call.  A host that the call or the configuration names is
one that may be written. -/
inductive Made (client : Client) (request : Request) : Prop where
  | dispatch {method host uri : String} {port : UInt16} {secure : Option Bool}
      {headers : Option Headers} (written : WrittenHost host)
      (made : client.dispatch method host port secure uri headers = .ok request)
  | absolute {method text : String} (made : client.dispatchAbsolute method text = .ok request)
  | standing {method uri : String} (written : WrittenHost client.config.defaultHost)
      (made : client.request method uri = .ok request)

variable {client : Client} {request : Request} {method host uri : String} {port : UInt16}
  {secure : Bool} {headers : Option Headers}

theorem dialed_routed (unbracketed : Unbracketed host) :
    DialedBare client (client.routed method host port secure uri headers).target.endpoint := by
  have secure_eq : (client.routed method host port secure uri headers).target.endpoint.secure =
      secure := (client.routed_common method host port secure uri headers).2.2.2.1
  constructor
  · intro route
    rw [secure_eq] at route
    rw [Client.routed_direct route]
    exact unbracketed
  · intro tunnel route
    rw [secure_eq] at route
    rw [Client.routed_tunnelled route]
    rfl

theorem dialed_of_dispatch {secure : Option Bool} (written : WrittenHost host)
    (made : client.dispatch method host port secure uri headers = .ok request) :
    DialedBare client request.target.endpoint := by
  obtain ⟨_, _, _, rfl⟩ := Client.dispatch_ok_iff.mp made
  exact dialed_routed written.unbracketed

theorem Made.dialed (made : Made client request) : DialedBare client request.target.endpoint := by
  cases made with
  | dispatch written made => exact dialed_of_dispatch written made
  | absolute made =>
      obtain ⟨url, secure, host, parsed, _, named, made⟩ := Client.dispatchAbsolute_cases made
      obtain ⟨found, found_mem, rfl⟩ := Option.map_eq_some_iff.mp named
      have unbracketed := Url.parse_unbracketed _ url parsed found found_mem
      exact dialed_of_dispatch ⟨found.text, unbracketed, .inl rfl⟩ made
  | standing written made => exact dialed_of_dispatch written made

/-! ## Sends -/

/-- A client has made the way of a request, whatever was done to the rest of it since. -/
def Sanctioned (client : Client) (request : Request) : Prop :=
  ∃ closed made, Made { client with closed } made ∧ request.target = made.target

theorem Sanctioned.dialed (sanctioned : Sanctioned client request) :
    DialedBare client request.target.endpoint := by
  obtain ⟨closed, made, is_made, target_eq⟩ := sanctioned
  rw [target_eq]
  exact ⟨is_made.dialed.direct, is_made.dialed.tunnelled⟩

/-- The standard policy names requests of its client. -/
theorem sanctioned_of_decide {decider : Client} (config_eq : decider.config = client.config)
    {response : Response} (decided : decider.decide response = .next request) :
    Sanctioned client request := by
  obtain ⟨next, resolved, dispatched⟩ := Client.resolved_of_decide decided
  have bare := (Redirect.sound_of_resolve resolved).1
  have decider_eq : decider = { client with closed := decider.closed } := by rw [← config_eq]
  rw [decider_eq] at dispatched
  exact ⟨_, request, .dispatch ⟨next.host, bare.unbracketed, .inl rfl⟩ dispatched, rfl⟩

namespace Sending

variable {clients : Nat → Client} {sending : Sending}

/-- A send is to exchange a request of a client, and has asked for endpoints of clients only. -/
structure Led (clients : Nat → Client) (sending : Sending) : Prop where
  current : Sanctioned (clients sending.client) sending.loop.current
  asked : ∀ client endpoint, .asked client endpoint ∈ sending.history →
    DialedBare (clients client) endpoint

/-- A policy names requests of clients. -/
def Action.Names (clients : Nat → Client) (action : Action) : Prop :=
  ∀ outside next, action = .turn outside → outside.decision = .next next →
    Sanctioned (clients outside.client) next

theorem Led.note (led : sending.Led clients) {event : Event} (asks_not : event.asked? = none) :
    (sending.note event).Led clients := by
  refine ⟨led.current, ?_⟩
  intro client endpoint asked_mem
  rcases List.mem_cons.mp asked_mem with rfl | asked_mem
  · cases asks_not
  · exact led.asked client endpoint asked_mem

/-- What others do between its turns does not change what a send asks for. -/
theorem Led.surround (led : sending.Led clients) {event : Event} (asks_not : event.asked? = none)
    (others : Nat → Client) (policy : Nat) :
    { sending.note event with clients := others, policy }.Led clients :=
  ⟨(led.note asks_not).current, (led.note asks_not).asked⟩

theorem Led.settle (led : sending.Led clients) (result : Except ClientError Response) :
    (sending.settle result).Led clients := by
  have noted : (sending.note (.exchanged sending.loop.current result)).Led clients := led.note rfl
  rw [Sending.settle]
  split
  · exact ⟨noted.current, noted.asked⟩
  · exact ⟨noted.current, noted.asked⟩

theorem Led.begin (led : sending.Led clients) : sending.begin.Led clients := by
  have begun : (sending.note (.began sending.client sending.loop.current)).Led clients :=
    led.note rfl
  rw [Sending.begin]
  dsimp only
  split
  · exact begun.settle _
  · refine ⟨led.current, ?_⟩
    intro client endpoint asked_mem
    rcases List.mem_cons.mp asked_mem with asked_eq | asked_mem
    · cases asked_eq
      exact led.current.dialed
    · exact begun.asked client endpoint asked_mem

theorem Led.receive (led : sending.Led clients) (answer : Answer Unit) :
    (sending.receive answer).Led clients := by
  cases answer with
  | error error => exact led.settle (.error (.connect error))
  | ok connection =>
      have connected : (sending.note .connected).Led clients := led.note rfl
      rw [Sending.receive]
      split
      · exact connected.settle _
      · exact ⟨connected.current, connected.asked⟩

theorem Led.obey (led : sending.Led clients) (decider : Nat) (response : Response)
    {decision : Decision} {client : Nat}
    (names : ∀ next, decision = .next next → Sanctioned (clients client) next) :
    (sending.obey decider response decision client).Led clients := by
  have noted : (sending.note (.decided decider decision client)).Led clients := led.note rfl
  rw [Sending.obey]
  split
  · exact ⟨noted.current, noted.asked⟩
  · rename_i loop goes_on
    obtain ⟨next, decision_eq, rfl⟩ := SendLoop.named_of_exchange goes_on
    refine ⟨?_, noted.asked⟩
    obtain ⟨closed, made, is_made, target_eq⟩ := names next decision_eq
    exact ⟨closed, made, is_made, target_eq⟩

/-- A turn asks for an endpoint of a client, if the policy that decides in it names a request of a
client. -/
theorem Led.turn (led : sending.Led clients) {outside : Outside}
    (names : ∀ decider response next, sending.stage = .deciding decider response →
      outside.decision = .next next → Sanctioned (clients outside.client) next) :
    (sending.turn outside).Led clients := by
  rw [Sending.turn.eq_def]
  cases stage : sending.stage with
  | ready => exact led.begin
  | acquiring => exact led.receive outside.answer
  | exchanging => exact led.settle _
  | deciding decider response =>
      exact led.obey decider response fun next => names decider response next stage
  | finished result => exact led

theorem Led.step (led : sending.Led clients) {action : Action} (names : action.Names clients) :
    (sending.step action).Led clients := by
  cases action with
  | install policy => exact led.surround rfl sending.clients policy
  | close client => exact led.surround rfl _ sending.policy
  | turn outside => exact led.turn fun _ _ next _ => names outside next rfl

theorem Led.run (led : sending.Led clients) {actions : List Action}
    (names : ∀ action ∈ actions, action.Names clients) : (sending.run actions).Led clients := by
  induction actions generalizing sending with
  | nil => exact led
  | cons action actions induction =>
      obtain ⟨first, rest⟩ := List.forall_mem_cons.mp names
      exact induction (led.step first) rest

/-- Where the standard policy decides, nothing need be known about decisions. -/
theorem Led.stepStandard {owner : Nat} (led : sending.Led clients)
    (config_eq : (sending.clients owner).config = (clients owner).config) (action : Action) :
    (sending.step (sending.standard owner action)).Led clients := by
  cases action with
  | install policy => exact led.surround rfl sending.clients policy
  | close client => exact led.surround rfl _ sending.policy
  | turn outside =>
      rw [standard]
      split
      · refine led.turn fun _ response next _ decided => ?_
        exact sanctioned_of_decide config_eq decided
      · rename_i decides_not
        exact led.turn fun decider response _ stage => absurd stage (decides_not decider response)

theorem Led.runStandard {owner : Nat} (led : sending.Led clients)
    (config_eq : (sending.clients owner).config = (clients owner).config)
    (actions : List Action) : (sending.runStandard owner actions).Led clients := by
  induction actions generalizing sending with
  | nil => exact led
  | cons action actions induction =>
      refine induction (led.stepStandard config_eq action) ?_
      cases action with
      | install policy => exact config_eq
      | close client => exact (config_close sending client owner).trans config_eq
      | turn outside => exact (config_turn sending outside owner).trans config_eq

end Sending

/-! ## Upgrades -/

/-- An upgrade asks for bare hosts only. -/
theorem unbracketed_of_asked {η : Type} {options : WebSocket.Options}
    (written : WrittenHost (options.host.getD client.config.defaultHost))
    (actions : List (WebSocket.Opening.Action η)) {purpose : Purpose} {endpoint : Endpoint}
    (asked_mem : .asked purpose endpoint ∈
      ((WebSocket.Opening.start client options).run actions).history) :
    Unbracketed endpoint.host := by
  have sound := (WebSocket.Opening.sound_start client options).run actions
  obtain ⟨later, earlier, history_eq⟩ := List.append_of_mem asked_mem
  have grounded := sound.recorded.grounded
  rw [history_eq] at grounded
  obtain ⟨_, endpoint_eq, _⟩ := grounded.of_append
  rw [endpoint_eq]
  exact written.unbracketed

/-- Pools are asked for bare hosts, but for the host of a proxy.  Of a send whose requests clients
have made of their calls, whatever policies name them, every endpoint that is asked for leads to a
bare host if its requests are not tunnelled, and to the host of the proxy as it is configured if
they are; so does every endpoint of a send under the standard policy, and every endpoint of an
upgrade leads to a bare host. -/
theorem asked_hosts_bare_but_proxy (clients : Nat → Client) :
    (∀ (owner policy : Nat) (request : Request) (actions : List Sending.Action),
      Sanctioned (clients owner) request →
      let sending := Sending.start clients owner policy request
      (∀ client endpoint, .asked client endpoint ∈ (sending.runStandard owner actions).history →
        DialedBare (clients client) endpoint) ∧
      ((∀ action ∈ actions, action.Names clients) →
        ∀ client endpoint, .asked client endpoint ∈ (sending.run actions).history →
          DialedBare (clients client) endpoint)) ∧
    (∀ (client : Nat) (endpoint : Endpoint), DialedBare (clients client) endpoint →
      (Unbracketed endpoint.host ↔
        ∀ tunnel, (clients client).tunnelFor? endpoint.secure = some tunnel →
          Unbracketed tunnel.proxy.host)) ∧
    ∀ (η : Type) (client : Nat) (options : WebSocket.Options)
      (actions : List (WebSocket.Opening.Action η)),
      WrittenHost (options.host.getD (clients client).config.defaultHost) →
      ∀ purpose endpoint,
        .asked purpose endpoint ∈
            ((WebSocket.Opening.start (clients client) options).run actions).history →
          Unbracketed endpoint.host := by
  refine ⟨?_, fun _ _ dialed => dialed.unbracketed_iff,
    fun _ _ _ actions written _ _ => unbracketed_of_asked written actions⟩
  intro owner policy request actions sanctioned sending
  have led : sending.Led clients := ⟨sanctioned, nofun⟩
  exact ⟨(led.runStandard rfl actions).asked, fun names => (led.run names).asked⟩

/-- IPv6 literals that are written with brackets are dialed without, by a request that does not go
through the proxy and by a WebSocket on the default host. -/
theorem literals_dialed_bare :
    let client : Client :=
      { config := { defaultHost := "[::3]", proxy := some { host := "[::1]", port := 3128 } } }
    ∃ request, client.dispatch "GET" "[::2]" 8443 (some true) "/" none = .ok request ∧
      Sanctioned client request ∧
      let action : Sending.Action := .turn ⟨.ok (), ⟨[], false⟩, .next request, 0⟩
      let sending := (Sending.start (fun _ => client) 0 0 request).run [action]
      let opening :=
        (WebSocket.Opening.start client { uri := "/" }).run [.subscribe () true]
      action.Names (fun _ => client) ∧
      .asked 0 ⟨"::2", 8443, true⟩ ∈ sending.history ∧ DialedBare client ⟨"::2", 8443, true⟩ ∧
      WrittenHost client.config.defaultHost ∧
      .asked .webSocket ⟨"::3", 80, false⟩ ∈ opening.history ∧ Unbracketed "::3" := by
  intro client
  have literal (inner : String) (unbracketed : Unbracketed inner) :
      WrittenHost ("[" ++ inner ++ "]") := ⟨inner, unbracketed, .inr rfl⟩
  have second : WrittenHost "[::2]" := literal "::2" (by simp [Unbracketed])
  have third : WrittenHost "[::3]" := literal "::3" (by simp [Unbracketed])
  have dispatched : client.dispatch "GET" "[::2]" 8443 (some true) "/" none =
      .ok (client.routed "GET" "::2" 8443 true "/" none) :=
    Client.dispatch_ok_iff.mpr ⟨by decide, by decide, rfl, rfl⟩
  have sanctioned : Sanctioned client (client.routed "GET" "::2" 8443 true "/" none) :=
    ⟨false, _, .dispatch second dispatched, rfl⟩
  refine ⟨_, dispatched, sanctioned, ?_⟩
  intro action sending opening
  have names : action.Names (fun _ => client) := by
    intro outside next action_eq decision_eq
    cases (Sending.Action.turn.inj action_eq).symm
    cases decision_eq
    exact sanctioned
  have asked : .asked 0 ⟨"::2", 8443, true⟩ ∈ sending.history := List.mem_cons_self
  have opened : opening.history = [.asked .webSocket ⟨"::3", 80, false⟩, .started ()] := by
    have subscribed : (WebSocket.Opening.start client { uri := "/" } :
        WebSocket.Opening Unit).stream.subscribe client =
          ({ options := { uri := "/" }, subscribed := true }, .started ⟨"::3", 80, false⟩) := by
      simp [WebSocket.Opening.start, WebSocket.UpgradeStream.subscribe,
        WebSocket.UpgradeStream.checkArguments, WebSocket.Options.destination, bareHost, client]
    have same_client : (WebSocket.Opening.start client { uri := "/" } :
        WebSocket.Opening Unit).client = client := rfl
    simp only [opening, WebSocket.Opening.run, List.foldl, WebSocket.Opening.step,
      WebSocket.Opening.subscribe]
    rw [same_client, subscribed]
    rfl
  have asked_too : .asked .webSocket ⟨"::3", 80, false⟩ ∈ opening.history := by
    rw [opened]
    exact List.mem_cons_self
  obtain ⟨sends, _, upgrades⟩ := asked_hosts_bare_but_proxy fun _ => client
  exact ⟨names, asked,
    (sends 0 0 _ [action] sanctioned).2 (by simpa using names) 0 _ asked, third, asked_too,
    upgrades Unit 0 { uri := "/" } [.subscribe () true] third _ _ asked_too⟩

/-- The brackets around an IPv6 literal of a proxy reach the pool. -/
theorem bracketed_proxy_dialed :
    let client : Client := { config := { proxy := some { host := "[::1]", port := 3128 } } }
    client.config.problems = [] ∧ WrittenHost "[::1]" ∧ WrittenHost "[::2]" ∧
      ∃ request, client.dispatch "GET" "[::2]" 80 none "/" none = .ok request ∧
        let begins : Sending.Action := .turn ⟨.ok (), ⟨[], false⟩, .stay, 0⟩
        let sending := (Sending.start (fun _ => client) 0 0 request).runStandard 0 [begins]
        .asked 0 ⟨"[::1]", 3128, false⟩ ∈ sending.history ∧ ¬Unbracketed "[::1]" := by
  intro client
  refine ⟨by decide, ⟨"::1", by simp [Unbracketed], .inr rfl⟩,
    ⟨"::2", by simp [Unbracketed], .inr rfl⟩, client.routed "GET" "::2" 80 false "/" none,
    Client.dispatch_ok_iff.mpr ⟨by decide, by decide, rfl, rfl⟩, List.mem_cons_self, ?_⟩
  simp [Unbracketed]

end Courier
