import Courier.Proofs.Authorization
import Courier.Proofs.Opening.Direct
import Courier.Proofs.Proxy
import Courier.Proofs.Sending.Fresh

/-!
# Credentials of a proxy

The credentials of a proxy go to that proxy and nowhere else.  Two clients that are configured
alike but for these credentials send the same requests to all origins, and to the proxy requests
that differ in the credentials only; a tunnelled request carries no others than those configured.
-/

namespace Courier

open Http (Headers)

/-! ## Requests without credentials -/

/-- A request without the credentials of a proxy. -/
def Request.withoutCredentials (request : Request) : Request :=
  { request with headers := some ((request.headers.getD .empty).erase proxyAuthorization) }

/-- What a caller does to a request before it is sent. -/
inductive Edit where
  | touchHeaders
  | appendHeader (name : String) (value : Bytes)
  | insertHeader (name : String) (value : Bytes)
  | setBody (body : Bytes)
  | setFollowRedirects (follows : Bool)

namespace Edit

def apply (request : Request) : Edit → Request
  | touchHeaders => request.touchHeaders
  | appendHeader name value => request.appendHeader name value
  | insertHeader name value => request.insertHeader name value
  | setBody body => { request with body }
  | setFollowRedirects follows => { request with followRedirects := follows }

/-- An edit leaves the credentials of a proxy alone. -/
def Spares : Edit → Prop
  | appendHeader name _ | insertHeader name _ => Ascii.lower name ≠ proxyAuthorization
  | _ => True

variable {request : Request}

theorem target_apply (request : Request) (edit : Edit) :
    (apply request edit).target = request.target := by
  cases edit <;> rfl

/-- An edit does to a request without credentials what it does to the request. -/
theorem withoutCredentials_apply (request : Request) (edit : Edit) :
    (apply request.withoutCredentials edit).withoutCredentials =
      (apply request edit).withoutCredentials := by
  cases edit with
  | touchHeaders =>
      simp [apply, Request.touchHeaders, Request.withoutCredentials, Headers.erase_erase]
  | appendHeader name value =>
      simp [apply, Request.appendHeader, Request.withoutCredentials, Headers.erase_append_erase]
  | insertHeader name value =>
      simp [apply, Request.insertHeader, Request.withoutCredentials, Headers.insert,
        Headers.erase_comm _ proxyAuthorization, Headers.erase_append_erase]
  | setBody body => simp [apply, Request.withoutCredentials, Headers.erase_erase]
  | setFollowRedirects follows => simp [apply, Request.withoutCredentials, Headers.erase_erase]

theorem values_apply {edit : Edit} (spares : edit.Spares) :
    (apply request edit).values proxyAuthorization = request.values proxyAuthorization := by
  cases edit with
  | touchHeaders => rfl
  | appendHeader name value =>
      rw [apply, Request.appendHeader, Request.values, Option.getD_some, Headers.values_append,
        if_neg spares, List.append_nil]
      rfl
  | insertHeader name value =>
      exact Headers.values_insert_of_ne (Ne.symm spares)
  | setBody body => rfl
  | setFollowRedirects follows => rfl

end Edit

/-- A request after what a caller has done to it. -/
def Request.edited (request : Request) (edits : List Edit) : Request :=
  edits.foldl Edit.apply request

theorem Request.target_edited (request : Request) (edits : List Edit) :
    (request.edited edits).target = request.target := by
  induction edits generalizing request with
  | nil => rfl
  | cons edit edits induction => exact (induction _).trans (edit.target_apply request)

theorem Request.values_edited {request : Request} {edits : List Edit}
    (spare : ∀ edit ∈ edits, edit.Spares) :
    (request.edited edits).values proxyAuthorization = request.values proxyAuthorization := by
  induction edits generalizing request with
  | nil => rfl
  | cons edit edits induction =>
      obtain ⟨spares, spare⟩ := List.forall_mem_cons.mp spare
      exact (induction spare).trans (Edit.values_apply spares)

/-! ## Requests of two clients -/

/-- A request and another one are the same or, on their way to a proxy, the same but for the
credentials. -/
structure Discreet (client : Client) (proxy : Proxy) (request other : Request) : Prop where
  direct : client.tunnelFor? request.target.secure = none → other = request
  tunnelled : client.tunnelFor? request.target.secure ≠ none →
    request.target.endpoint = ⟨proxy.host, proxy.port, false⟩ ∧
      other.withoutCredentials = request.withoutCredentials

namespace Discreet

variable {client : Client} {proxy : Proxy} {request other : Request}

theorem alike (discreet : Discreet client proxy request other) :
    other.withoutCredentials = request.withoutCredentials := by
  cases route : client.tunnelFor? request.target.secure with
  | none => rw [discreet.direct route]
  | some tunnel => exact (discreet.tunnelled (by simp [route])).2

theorem method (discreet : Discreet client proxy request other) : other.method = request.method :=
  congrArg (·.method) discreet.alike

theorem target (discreet : Discreet client proxy request other) : other.target = request.target :=
  congrArg (·.target) discreet.alike

theorem followRedirects (discreet : Discreet client proxy request other) :
    other.followRedirects = request.followRedirects :=
  congrArg (·.followRedirects) discreet.alike

theorem absoluteUri (discreet : Discreet client proxy request other) :
    other.absoluteUri = request.absoluteUri := by
  rw [Request.absoluteUri, Request.absoluteUri, discreet.target]

theorem responseOf (discreet : Discreet client proxy request other) (reply : Http.Reply) :
    other.responseOf reply = request.responseOf reply := by
  rw [Request.responseOf, Request.responseOf, discreet.method, discreet.absoluteUri]

/-- What a caller does to both requests does not tell them further apart. -/
theorem edit (discreet : Discreet client proxy request other) (edit : Edit) :
    Discreet client proxy (edit.apply request) (edit.apply other) := by
  constructor
  · intro route
    rw [Edit.target_apply] at route
    rw [discreet.direct route]
  · intro route
    rw [Edit.target_apply] at route ⊢
    refine ⟨(discreet.tunnelled route).1, ?_⟩
    rw [← Edit.withoutCredentials_apply, discreet.alike, Edit.withoutCredentials_apply]

theorem edited (discreet : Discreet client proxy request other) (edits : List Edit) :
    Discreet client proxy (request.edited edits) (other.edited edits) := by
  induction edits generalizing request other with
  | nil => exact discreet
  | cons edit edits induction => exact induction (discreet.edit edit)

end Discreet

section Clients

variable {config : Config} {proxy : Proxy} {username password : Option String} {closed : Bool}

theorem tunnelFor_proxiedClient (config : Config) (proxy : Proxy) (closed secure : Bool) :
    (proxiedClient config proxy closed).tunnelFor? secure =
      if secure || config.secure || proxy.kind != .http then none else some (.through proxy) := by
  cases secure with
  | true => rfl
  | false =>
      rw [Client.tunnelFor?_plain, Tunnel.ofConfig?, proxiedClient]
      simp [Tunnel.through]

/-- Whether a request is tunnelled does not depend on the credentials. -/
theorem route_cases (config : Config) (proxy : Proxy) (username password : Option String)
    (closed secure : Bool) :
    let other : Proxy := { proxy with username, password }
    (proxiedClient config proxy closed).tunnelFor? secure = none ∧
        (proxiedClient config other closed).tunnelFor? secure = none ∨
      (proxiedClient config proxy closed).tunnelFor? secure = some (.through proxy) ∧
        (proxiedClient config other closed).tunnelFor? secure = some (.through other) := by
  intro other
  rw [tunnelFor_proxiedClient, tunnelFor_proxiedClient]
  split
  · exact .inl ⟨rfl, rfl⟩
  · exact .inr ⟨rfl, rfl⟩

theorem erase_authorize (tunnel : Tunnel) (headers : Option Headers) :
    ((tunnel.authorize headers).getD .empty).erase proxyAuthorization =
      (headers.getD .empty).erase proxyAuthorization := by
  rw [Tunnel.authorize]
  cases tunnel.authorization with
  | none => rfl
  | some value =>
      dsimp only [Option.getD_some]
      rw [Headers.insert, lower_proxyAuthorization, Headers.erase_append_erase]
      simp [Headers.erase, Headers.append]

theorem discreet_routed (method host : String) (port : UInt16) (secure : Bool) (uri : String)
    (headers : Option Headers) :
    Discreet (proxiedClient config proxy closed) proxy
      ((proxiedClient config proxy closed).routed method host port secure uri headers)
      ((proxiedClient config { proxy with username, password } closed).routed method host port
        secure uri headers) := by
  have secure_eq : ((proxiedClient config proxy closed).routed method host port secure uri
      headers).target.secure = secure :=
    (Client.routed_common _ method host port secure uri headers).2.2.2.1
  rcases route_cases config proxy username password closed secure with
    ⟨direct, other_direct⟩ | ⟨tunnelled, other_tunnelled⟩
  · refine ⟨fun _ => ?_, fun route => ?_⟩
    · rw [Client.routed_direct direct, Client.routed_direct other_direct]
      rfl
    · rw [secure_eq] at route
      exact absurd direct route
  · refine ⟨fun route => ?_, fun _ => ⟨?_, ?_⟩⟩
    · rw [secure_eq, tunnelled] at route
      cases route
    · rw [Client.routed_tunnelled tunnelled]
      rfl
    · rw [Client.routed_tunnelled tunnelled, Client.routed_tunnelled other_tunnelled]
      simp only [Request.withoutCredentials, erase_authorize]
      rfl

/-- Both clients refuse a call, for the same reason, or both make a request of it. -/
theorem discreet_dispatch (method host : String) (port : UInt16) (secure : Option Bool)
    (uri : String) (headers : Option Headers) :
    let client := proxiedClient config proxy closed
    let other := proxiedClient config { proxy with username, password } closed
    (∃ error, client.dispatch method host port secure uri headers = .error error ∧
      other.dispatch method host port secure uri headers = .error error) ∨
    ∃ request otherRequest, client.dispatch method host port secure uri headers = .ok request ∧
      other.dispatch method host port secure uri headers = .ok otherRequest ∧
      Discreet client proxy request otherRequest := by
  intro client other
  rw [Client.dispatch_eq, Client.dispatch_eq]
  split
  · exact .inl ⟨_, rfl, rfl⟩
  · split
    · exact .inl ⟨_, rfl, rfl⟩
    · cases closed with
      | true => exact .inl ⟨_, rfl, rfl⟩
      | false => exact .inr ⟨_, _, rfl, rfl, discreet_routed _ _ _ _ _ _⟩

/-! ## Chains -/

/-- Two policies have decided the same, or have named requests that differ in the credentials. -/
inductive Decision.Discreet (client : Client) (proxy : Proxy) : Decision → Decision → Prop where
  | stay : Discreet client proxy .stay .stay
  | refuse (error : ClientError) : Discreet client proxy (.refuse error) (.refuse error)
  | next {request other : Request} (discreet : Courier.Discreet client proxy request other) :
      Discreet client proxy (.next request) (.next other)

/-- The policies decide alike, also of clients that are closed meanwhile. -/
theorem discreet_decide (meanwhile : Bool) (response : Response) :
    Decision.Discreet (proxiedClient config proxy closed) proxy
      ((proxiedClient config proxy meanwhile).decide response)
      ((proxiedClient config { proxy with username, password } meanwhile).decide response) := by
  rw [Client.decide, Client.decide, Client.follow, Client.follow]
  cases Redirect.resolve? response with
  | none => exact .stay
  | some next =>
      dsimp only
      rcases discreet_dispatch next.method next.host next.port (some next.secure) next.uri none with
        ⟨error, refused, other_refused⟩ | ⟨request, other, made, other_made, discreet⟩
      · rw [refused, other_refused]
        exact .refuse error
      · rw [made, other_made]
        exact .next ⟨discreet.direct, discreet.tunnelled⟩

/-- What follows the decisions of both policies. -/
theorem discreet_afterDecision {client : Client} {loop : SendLoop} {other : Request}
    (discreet : Discreet client proxy loop.current other) {decision otherDecision : Decision}
    (decided : Decision.Discreet client proxy decision otherDecision) (response : Response) :
    let otherLoop := { loop with current := other }
    (∃ result, loop.afterDecision response decision = .finished result ∧
      otherLoop.afterDecision response otherDecision = .finished result) ∨
    ∃ next otherNext, loop.afterDecision response decision = .exchange next ∧
      otherLoop.afterDecision response otherDecision =
        .exchange { next with current := otherNext } ∧
      Discreet client proxy next.current otherNext := by
  intro otherLoop
  cases decided with
  | stay => exact .inl ⟨_, rfl, rfl⟩
  | refuse error => exact .inl ⟨_, rfl, rfl⟩
  | next named =>
      rw [SendLoop.afterDecision, SendLoop.afterDecision, discreet.absoluteUri]
      by_cases beyond : loop.hops + 1 > loop.limit
      · rw [if_pos beyond, if_pos beyond]
        exact .inl ⟨_, rfl, rfl⟩
      · rw [if_neg beyond, if_neg beyond]
        exact .inr ⟨_, _, rfl, rfl, named.edit (.setFollowRedirects true)⟩

variable (username password) in
/-- The chains of two sends whose first requests differ in the credentials at most. -/
theorem discreet_chain (loop : SendLoop) (other : Request)
    (discreet : Discreet (proxiedClient config proxy closed) proxy loop.current other)
    (hops : List Hop) :
    let chain := (proxiedClient config proxy closed).chain loop hops
    let otherChain := (proxiedClient config { proxy with username, password } closed).chain
      { loop with current := other } hops
    List.Forall₂ (Discreet (proxiedClient config proxy closed) proxy) chain.requests
        otherChain.requests ∧
      otherChain.result = chain.result := by
  induction hops generalizing loop other with
  | nil => exact ⟨.cons discreet .nil, rfl⟩
  | cons hop hops induction =>
      have same_response : hop.outcome.map other.responseOf =
          hop.outcome.map loop.current.responseOf := by
        cases hop.outcome with
        | error error => rfl
        | ok reply => exact congrArg Except.ok (discreet.responseOf reply)
      have same_exchange (result : Except ClientError Response) :
          { loop with current := other }.afterExchange result = loop.afterExchange result := by
        cases result with
        | error error => rfl
        | ok response => simp [SendLoop.afterExchange, discreet.followRedirects]
      rw [Client.chain, Client.chain, same_exchange, same_response]
      cases loop.afterExchange (hop.outcome.map loop.current.responseOf) with
      | finished result => exact ⟨.cons discreet .nil, rfl⟩
      | consult response =>
          have decided : Decision.Discreet (proxiedClient config proxy closed) proxy
              ({ proxiedClient config proxy closed with closed := hop.closed }.decide response)
              ({ proxiedClient config { proxy with username, password } closed with
                closed := hop.closed }.decide response) := discreet_decide hop.closed response
          dsimp only
          rcases discreet_afterDecision discreet decided response with
            ⟨result, finished, other_finished⟩ | ⟨next, otherNext, goes_on, other_goes_on, alike⟩
          · rw [finished, other_finished]
            exact ⟨.cons discreet .nil, rfl⟩
          · rw [goes_on, other_goes_on]
            obtain ⟨requests, result⟩ := induction next otherNext alike
            exact ⟨.cons discreet requests, result⟩

/-! ## Runs -/

/-- What relates two lists place by place relates what they begin with. -/
theorem forall_zip_of_isPrefix {alike : Request → Request → Prop} {requests others : List Request}
    (all : List.Forall₂ alike requests others) {begun otherBegun : List Request}
    (begun_initial : begun <+: requests) (other_initial : otherBegun <+: others) :
    ∀ pair ∈ begun.zip otherBegun, alike pair.1 pair.2 := by
  induction all generalizing begun otherBegun with
  | nil =>
      rw [List.prefix_nil.mp begun_initial]
      exact List.forall_mem_nil _
  | cons first _ induction =>
      cases begun with
      | nil => exact List.forall_mem_nil _
      | cons request begun =>
          cases otherBegun with
          | nil => exact List.forall_mem_nil _
          | cons other otherBegun =>
              obtain ⟨rfl, begun_rest⟩ := List.cons_prefix_cons.mp begun_initial
              obtain ⟨rfl, other_rest⟩ := List.cons_prefix_cons.mp other_initial
              exact List.forall_mem_cons.mpr ⟨first, induction begun_rest other_rest⟩

/-- Requests that two runs have begun in the same place differ in the credentials at most, if the
exchanges before have ended alike. -/
theorem discreet_runs {clients others : Nat → Client} {owner : Nat}
    (client_eq : clients owner = proxiedClient config proxy closed)
    (other_eq : others owner = proxiedClient config { proxy with username, password } closed)
    {request otherRequest : Request}
    (discreet : Discreet (proxiedClient config proxy closed) proxy request otherRequest)
    (policy otherPolicy : Nat) (actions otherActions : List Sending.Action) {hops : List Hop}
    (met : Sending.Met hops
      ((Sending.start clients owner policy request).runStandard owner actions).history)
    (other_met : Sending.Met hops
      ((Sending.start others owner otherPolicy otherRequest).runStandard owner
        otherActions).history) :
    let sending := (Sending.start clients owner policy request).runStandard owner actions
    let other :=
      (Sending.start others owner otherPolicy otherRequest).runStandard owner otherActions
    ∀ pair ∈ (Sending.begun sending.history).reverse.zip (Sending.begun other.history).reverse,
      Discreet (proxiedClient config proxy closed) proxy pair.1 pair.2 := by
  intro sending other
  have begun_initial := Sending.begun_isPrefix_openChain clients owner policy request actions met
  have other_initial :=
    Sending.begun_isPrefix_openChain others owner otherPolicy otherRequest otherActions other_met
  rw [client_eq] at begun_initial
  rw [other_eq] at other_initial
  have alike := discreet_chain username password
    (.start (proxiedClient config proxy closed) request) otherRequest discreet
    ((hops.map Hop.outcome).map (⟨·, false⟩))
  exact forall_zip_of_isPrefix alike.1 begun_initial other_initial

/-! ## Tunnelled requests -/

/-- A request carries one value of the credentials header, and so does what is written of it. -/
structure Request.Carries (request : Request) (value : Bytes) : Prop where
  values : request.values proxyAuthorization = [value]
  written : ∀ written, request.outgoing = .ok written →
    written.headers.values proxyAuthorization = [value]

theorem Request.carries_of_values {request : Request} {value : Bytes}
    (values : request.values proxyAuthorization = [value]) : request.Carries value := by
  refine ⟨values, ?_⟩
  intro written writable
  obtain ⟨target, _, _, rfl⟩ := Request.outgoing_ok_iff.mp writable
  rw [Headers.values_insert_of_ne (by decide)]
  exact values

variable {user word : String}

theorem values_routed (username_eq : proxy.username = some user)
    (password_eq : proxy.password = some word) (method host : String) (port : UInt16)
    {secure : Bool} (tunnelled : (proxiedClient config proxy closed).tunnelFor? secure ≠ none)
    (uri : String) (headers : Option Headers) :
    ((proxiedClient config proxy closed).routed method host port secure uri headers).values
      proxyAuthorization = [Tunnel.basicCredentials user word] := by
  have credentials : (Tunnel.through proxy).authorization =
      some (Tunnel.basicCredentials user word) :=
    Tunnel.credentials?_eq username_eq password_eq
  rcases route_cases config proxy none none closed secure with ⟨direct, _⟩ | ⟨route, _⟩
  · exact absurd direct tunnelled
  · rw [Client.routed_tunnelled route, Request.values, values_authorize, if_pos rfl, credentials]
    rfl

theorem values_dispatch (username_eq : proxy.username = some user)
    (password_eq : proxy.password = some word) {method host uri : String} {port : UInt16}
    {secure : Option Bool} {headers : Option Headers} {request : Request}
    (dispatched : (proxiedClient config proxy closed).dispatch method host port secure uri headers =
      .ok request)
    (tunnelled : (proxiedClient config proxy closed).tunnelFor? request.target.secure ≠ none) :
    request.values proxyAuthorization = [Tunnel.basicCredentials user word] := by
  obtain ⟨_, _, _, rfl⟩ := Client.dispatch_ok_iff.mp dispatched
  rw [(Client.routed_common _ _ _ _ _ _ _).2.2.2.1] at tunnelled
  exact values_routed username_eq password_eq _ _ _ tunnelled _ _

/-- Every tunnelled request of a chain carries the configured credentials and no others, whatever
headers were passed to the call that made the first one. -/
theorem carries_of_chain (username_eq : proxy.username = some user)
    (password_eq : proxy.password = some word) {method host uri : String} {port : UInt16}
    {secure : Option Bool} {headers : Option Headers} {request : Request}
    (dispatched : (proxiedClient config proxy closed).dispatch method host port secure uri headers =
      .ok request)
    {edits : List Edit} (spare : ∀ edit ∈ edits, edit.Spares) (hops : List Hop) :
    let client := proxiedClient config proxy closed
    ∀ sent ∈ (client.chain (.start client (request.edited edits)) hops).requests,
      client.tunnelFor? sent.target.secure ≠ none →
        sent.Carries (Tunnel.basicCredentials user word) := by
  intro client sent sent_mem tunnelled
  let holds (sent : Request) : Prop :=
    client.tunnelFor? sent.target.secure ≠ none →
      sent.values proxyAuthorization = [Tunnel.basicCredentials user word]
  have first : holds (request.edited edits) := by
    intro tunnelled
    rw [Request.target_edited] at tunnelled
    rw [Request.values_edited spare]
    exact values_dispatch username_eq password_eq dispatched tunnelled
  have named (meanwhile : Bool) (response : Response) (request : Request)
      (decided : { client with closed := meanwhile }.decide response = .next request) :
      holds { request with followRedirects := true } := by
    obtain ⟨next, _, made⟩ := Client.resolved_of_decide decided
    have dispatched : (proxiedClient config proxy meanwhile).dispatch next.method next.host
        next.port (some next.secure) next.uri none = .ok request := made
    have carried := values_dispatch username_eq password_eq dispatched
    exact carried
  exact Request.carries_of_values (Client.chain_forall first named hops sent sent_mem tunnelled)

end Clients

/-! ## Sends and upgrades -/

/-- The sends of two requests differ in the credentials at most, if their exchanges end alike. -/
structure SendsDiscreetly (client other : Client) (proxy : Proxy)
    (request otherRequest : Request) : Prop where
  requests : ∀ hops, List.Forall₂ (Discreet client proxy)
    (client.chain (.start client request) hops).requests
    (other.chain (.start other otherRequest) hops).requests
  result : ∀ hops, (other.chain (.start other otherRequest) hops).result =
    (client.chain (.start client request) hops).result
  runs : ∀ (clients others : Nat → Client) (owner : Nat), clients owner = client →
    others owner = other →
    ∀ (policy otherPolicy : Nat) (actions otherActions : List Sending.Action) (hops : List Hop),
      let sending := (Sending.start clients owner policy request).runStandard owner actions
      let otherSending :=
        (Sending.start others owner otherPolicy otherRequest).runStandard owner otherActions
      Sending.Met hops sending.history → Sending.Met hops otherSending.history →
        ∀ pair ∈ (Sending.begun sending.history).reverse.zip
            (Sending.begun otherSending.history).reverse,
          Discreet client proxy pair.1 pair.2

/-- All tunnelled requests of a send carry one value of the credentials header. -/
structure SendsCarrying (client : Client) (value : Bytes) (request : Request) : Prop where
  requests : ∀ hops, ∀ sent ∈ (client.chain (.start client request) hops).requests,
    client.tunnelFor? sent.target.secure ≠ none → sent.Carries value
  runs : ∀ (clients : Nat → Client) (owner : Nat), clients owner = client →
    ∀ (policy : Nat) (actions : List Sending.Action),
      ∀ sent ∈ Sending.begun
          ((Sending.start clients owner policy request).runStandard owner actions).history,
        client.tunnelFor? sent.target.secure ≠ none → sent.Carries value

/-- The credentials of a proxy reach that proxy only.  Of two clients that are configured alike but
for them, both refuse a call, for the same reason, or both make a request of it; whatever a caller
then does to both requests alike, the two sends exchange the same requests but for those that go to
the proxy, which differ in the credentials at most.  Where credentials are configured, a tunnelled
request carries these and no others, unless the caller has set them later.  The upgrades of both
clients are the same altogether. -/
theorem credentials_reach_proxy_only (config : Config) (proxy : Proxy)
    (username password : Option String) (closed : Bool) :
    let client := proxiedClient config proxy closed
    let other := proxiedClient config { proxy with username, password } closed
    (∀ (method host : String) (port : UInt16) (secure : Option Bool) (uri : String)
      (headers : Option Headers),
      (∃ error, client.dispatch method host port secure uri headers = .error error ∧
        other.dispatch method host port secure uri headers = .error error) ∨
      ∃ request otherRequest, client.dispatch method host port secure uri headers = .ok request ∧
        other.dispatch method host port secure uri headers = .ok otherRequest ∧
        ∀ edits,
          SendsDiscreetly client other proxy (request.edited edits) (otherRequest.edited edits) ∧
          ∀ user word, proxy.username = some user → proxy.password = some word →
            (∀ edit ∈ edits, edit.Spares) →
              SendsCarrying client (Tunnel.basicCredentials user word) (request.edited edits)) ∧
    ∀ (η : Type) (options : WebSocket.Options) (actions : List (WebSocket.Opening.Action η)),
      let opening := (WebSocket.Opening.start client options).run actions
      let otherOpening := (WebSocket.Opening.start other options).run actions
      otherOpening.history = opening.history ∧ otherOpening.upgrade = opening.upgrade ∧
        ∀ key, options.handshake (options.destination other.config) key =
          options.handshake (options.destination client.config) key := by
  intro client other
  constructor
  · intro method host port secure uri headers
    rcases discreet_dispatch method host port secure uri headers with
      refused | ⟨request, otherRequest, made, other_made, discreet⟩
    · exact .inl refused
    · refine .inr ⟨request, otherRequest, made, other_made, fun edits => ⟨?_, ?_⟩⟩
      · have alike := discreet.edited edits
        have chains := discreet_chain username password (.start client (request.edited edits)) _
          alike
        refine ⟨fun hops => (chains hops).1, fun hops => (chains hops).2, ?_⟩
        intro clients others owner client_eq other_eq policy otherPolicy actions otherActions hops
          sending otherSending met other_met
        exact discreet_runs client_eq other_eq alike policy otherPolicy actions otherActions met
          other_met
      · intro user word username_eq password_eq spare
        have carry := carries_of_chain username_eq password_eq made spare
        refine ⟨carry, ?_⟩
        rintro clients owner client_eq policy actions sent sent_mem
        obtain ⟨hops, _, begun_initial⟩ :=
          ((Sending.chained_start clients owner policy (request.edited edits)).run
            actions).along.begun_isPrefix
        rw [client_eq] at begun_initial
        exact carry hops sent (begun_initial.subset (List.mem_reverse.mpr sent_mem))
  · intro η options actions opening otherOpening
    have same : otherOpening = opening.withProxy (some { proxy with username, password }) :=
      WebSocket.Opening.run_withProxy (WebSocket.Opening.start client options) _ actions
    rw [same]
    exact ⟨rfl, rfl, fun _ => rfl⟩

/-- A chain from a plain origin to a secured one and back, with credentials and without.  Whatever
the caller had put in their place, the proxy gets the configured ones. -/
theorem stale_credentials_replaced :
    let config : Config := {}
    let proxy : Proxy := { host := "proxy", username := some "user", password := some "word" }
    let client := proxiedClient config proxy false
    let other := proxiedClient config { proxy with username := none, password := none } false
    let stale := (Headers.empty.append "Proxy-Authorization" (Bytes.ofString "old")).append
      "Proxy-Authorization" (Bytes.ofString "older")
    let edits : List Edit :=
      [.appendHeader "Accept" (Bytes.ofString "text/plain"), .setFollowRedirects true]
    let reply (status : Nat) (location : String) : Http.Reply :=
      { head :=
          { version := .http11
            status
            headers := Headers.empty.append "location" (Bytes.ofString location) }
        body := [] }
    let hops : List Hop :=
      [⟨.ok (reply 302 "https://[::1]/b"), false⟩, ⟨.ok (reply 307 "http://[::1]:8080/c"), false⟩,
        ⟨.ok (reply 200 "/"), false⟩]
    let begins : List Sending.Action := [.turn ⟨.ok (), ⟨[], false⟩, .stay, 0⟩]
    proxy.username = some "user" ∧ proxy.password = some "word" ∧ (∀ edit ∈ edits, edit.Spares) ∧
      ∃ request otherRequest,
        client.dispatch "GET" "::1" 80 none "/a" (some stale) = .ok request ∧
        other.dispatch "GET" "::1" 80 none "/a" (some stale) = .ok otherRequest ∧
        let first := request.edited edits
        let otherFirst := otherRequest.edited edits
        let chain := client.chain (.start client first) hops
        let sending := (Sending.start (fun _ => client) 0 0 first).runStandard 0 begins
        let otherSending := (Sending.start (fun _ => other) 0 0 otherFirst).runStandard 0 begins
        chain.requests.map (·.target.endpoint) =
          [⟨"proxy", 3128, false⟩, ⟨"::1", 443, true⟩, ⟨"proxy", 3128, false⟩] ∧
        List.Forall₂ (Discreet client proxy) chain.requests
          (other.chain (.start other otherFirst) hops).requests ∧
        (first ∈ chain.requests ∧ client.tunnelFor? first.target.secure ≠ none ∧
          first.Carries (Tunnel.basicCredentials "user" "word")) ∧
        Sending.Met [] sending.history ∧ Sending.Met [] otherSending.history ∧
          Discreet client proxy first otherFirst := by
  intro config proxy client other stale edits reply hops begins
  have spare : ∀ edit ∈ edits, edit.Spares := by
    have accept_ne : Ascii.lower "Accept" ≠ proxyAuthorization := by decide
    simp [edits, Edit.Spares, accept_ne]
  have dispatched : client.dispatch "GET" "::1" 80 none "/a" (some stale) =
      .ok (client.routed "GET" "::1" 80 false "/a" (some stale)) :=
    Client.dispatch_ok_iff.mpr ⟨by decide, by decide, rfl, rfl⟩
  rcases (credentials_reach_proxy_only config proxy none none false).1 "GET" "::1" 80 none "/a"
    (some stale) with ⟨error, refused, _⟩ | ⟨request, otherRequest, made, other_made, sends⟩
  · cases dispatched.symm.trans refused
  · obtain ⟨discreet, carrying⟩ := sends edits
    have first_mem : request.edited edits ∈
        (client.chain (.start client (request.edited edits)) hops).requests := by
      rw [Client.requests_chain]
      exact List.mem_cons_self
    have carried := (carrying "user" "word" rfl rfl spare).requests hops _ first_mem
    have begun := discreet.runs (fun _ => client) (fun _ => other) 0 rfl rfl 0 0 begins begins []
      .nil .nil (request.edited edits, otherRequest.edited edits) (List.mem_singleton_self _)
    cases dispatched.symm.trans made
    have tunnelled : client.tunnelFor? false ≠ none := nofun
    refine ⟨rfl, rfl, spare, _, otherRequest, made, other_made, ?_, discreet.requests hops,
      ⟨first_mem, tunnelled, carried tunnelled⟩, .nil, .nil, begun⟩
    simp only [client, hops, reply, config, edits, stale]
    decide +kernel

end Courier
