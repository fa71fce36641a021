import Courier.Proofs.Http.Headers
import Courier.Proofs.Origin
import Courier.Proofs.Redirect
import Courier.Proofs.Sending.Chain

/-!
# Sends through a proxy

A proxy changes the way of plain requests and nothing else.  A request tells the same absolute URI
on either way, so that redirects lead to the same place, and a chain of redirects goes on through
the proxy as it does without one.
-/

namespace Courier

open Http (Headers)

/-! ## One request on both ways -/

/-- A request as it goes through a proxy.  A plain one is sent there with its absolute URI and the
credentials; a secured one stays as it is. -/
def Tunnel.carry (tunnel : Tunnel) (request : Request) : Request :=
  if request.target.secure then request
  else
    { request with
      target := { request.target with
        uri := request.absoluteUri
        connectHost := tunnel.proxy.host
        connectPort := tunnel.proxy.port }
      headers := tunnel.authorize request.headers }

/-- A request leads to its origin. -/
def Request.IsDirect (request : Request) : Prop :=
  request.target.connectHost = request.target.host ∧
    request.target.connectPort = request.target.port

/-- The values of a header name in a request. -/
def Request.values (request : Request) (name : String) : List Bytes :=
  (request.headers.getD .empty).values name

/-- Two requests are the same but for the way, which is straight for the one, and for a plain
request leads the other through a proxy. -/
structure Ways (tunnel : Tunnel) (direct proxied : Request) : Prop where
  method : proxied.method = direct.method
  host : proxied.target.host = direct.target.host
  port : proxied.target.port = direct.target.port
  secure : proxied.target.secure = direct.target.secure
  hostHeader : proxied.target.hostHeader = direct.target.hostHeader
  absoluteUri : proxied.absoluteUri = direct.absoluteUri
  body : proxied.body = direct.body
  followRedirects : proxied.followRedirects = direct.followRedirects
  /-- Only the credentials can be other values. -/
  values : ∀ name, name ≠ proxyAuthorization → proxied.values name = direct.values name
  straight : direct.IsDirect
  secured : direct.target.secure = true → proxied = direct
  plain : direct.target.secure = false →
    proxied.target.connectHost = tunnel.proxy.host ∧
      proxied.target.connectPort = tunnel.proxy.port ∧
      proxied.target.uri = direct.absoluteUri ∧
      proxied.values proxyAuthorization =
        (tunnel.authorization.map ([·])).getD (direct.values proxyAuthorization)

section Carry

variable {tunnel : Tunnel} {request : Request}

theorem carry_secured (secured : request.target.secure = true) :
    tunnel.carry request = request := if_pos secured

theorem carry_plain (plain : request.target.secure = false) :
    tunnel.carry request =
      { request with
        target := { request.target with
          uri := request.absoluteUri
          connectHost := tunnel.proxy.host
          connectPort := tunnel.proxy.port }
        headers := tunnel.authorize request.headers } :=
  if_neg (by simp [plain])

/-- The absolute URI of a plain request is absolute, whatever its target. -/
theorem isAbsolute_absoluteUri (plain : request.target.secure = false) :
    isAbsolute request.absoluteUri = true := by
  rw [Request.absoluteUri_eq]
  split
  · assumption
  · rw [plain]
    have absolute := isAbsolute_append (request.target.hostHeader ++ request.target.uri)
    rwa [← String.append_assoc] at absolute

@[simp] theorem absoluteUri_carry : (tunnel.carry request).absoluteUri = request.absoluteUri := by
  cases secure : request.target.secure with
  | true => rw [carry_secured secure]
  | false =>
      have absolute := isAbsolute_absoluteUri secure
      rw [carry_plain secure, Request.absoluteUri_eq]
      exact if_pos absolute

@[simp] theorem method_carry : (tunnel.carry request).method = request.method := by
  cases secure : request.target.secure with
  | true => rw [carry_secured secure]
  | false => rw [carry_plain secure]

@[simp] theorem followRedirects_carry :
    (tunnel.carry request).followRedirects = request.followRedirects := by
  cases secure : request.target.secure with
  | true => rw [carry_secured secure]
  | false => rw [carry_plain secure]

/-- What a caller changes of a request changes it on either way. -/
theorem carry_with (body : Bytes) (followRedirects : Bool) :
    tunnel.carry { request with body, followRedirects } =
      { tunnel.carry request with body, followRedirects } := by
  simp only [Tunnel.carry]
  split
  · rfl
  · rfl

theorem carry_following :
    tunnel.carry { request with followRedirects := true } =
      { tunnel.carry request with followRedirects := true } := by
  simp only [Tunnel.carry]
  split
  · rfl
  · rfl

theorem values_authorize (tunnel : Tunnel) (headers : Option Headers) (name : String) :
    ((tunnel.authorize headers).getD .empty).values name =
      if name = proxyAuthorization then
        (tunnel.authorization.map ([·])).getD ((headers.getD .empty).values name)
      else (headers.getD .empty).values name := by
  rw [Tunnel.authorize]
  cases tunnel.authorization with
  | none => simp
  | some value =>
      by_cases same : name = proxyAuthorization
      · have only := (headers.getD .empty).values_insert_self proxyAuthorization value
        rw [lower_proxyAuthorization] at only
        simpa [same] using only
      · rw [if_neg same]
        exact Headers.values_insert_of_ne (by rwa [lower_proxyAuthorization])

theorem ways_carry (straight : request.IsDirect) : Ways tunnel request (tunnel.carry request) := by
  cases secure : request.target.secure with
  | true =>
      rw [carry_secured secure]
      exact ⟨rfl, rfl, rfl, rfl, rfl, rfl, rfl, rfl, fun _ _ => rfl, straight, fun _ => rfl,
        fun plain => Bool.noConfusion (secure.symm.trans plain)⟩
  | false =>
      have same_uri : (tunnel.carry request).absoluteUri = request.absoluteUri := absoluteUri_carry
      rw [carry_plain secure] at same_uri ⊢
      refine ⟨rfl, rfl, rfl, rfl, rfl, same_uri, rfl, rfl, ?_, straight,
        fun secured => Bool.noConfusion (secure.symm.trans secured), fun _ => ⟨rfl, rfl, rfl, ?_⟩⟩
      · intro name other
        exact (values_authorize tunnel request.headers name).trans (if_neg other)
      · exact (values_authorize tunnel request.headers proxyAuthorization).trans (if_pos rfl)

@[simp] theorem responseOf_carry (reply : Http.Reply) :
    (tunnel.carry request).responseOf reply = request.responseOf reply := by
  simp [Request.responseOf]

end Carry

/-! ## Clients with and without a proxy -/

section Clients

variable {config : Config} {proxy : Proxy} {closed : Bool}

/-- A client that sends all its requests straight to their origins. -/
def directClient (config : Config) (closed : Bool) : Client :=
  { config := { config with proxy := none }, closed }

/-- A client that has a proxy. -/
def proxiedClient (config : Config) (proxy : Proxy) (closed : Bool) : Client :=
  { config := { config with proxy := some proxy }, closed }

/-- The way through a proxy. -/
def Tunnel.through (proxy : Proxy) : Tunnel := ⟨proxy, Tunnel.credentials? proxy⟩

theorem tunnelFor_of_no_proxy {client : Client} (no_proxy : client.config.proxy = none)
    (secure : Bool) : client.tunnelFor? secure = none := by
  cases secure with
  | true => rfl
  | false => simp [Tunnel.ofConfig?, no_proxy]

theorem tunnelFor_proxied (is_plain : config.secure = false) (is_http : proxy.kind = .http) :
    (proxiedClient config proxy closed).tunnelFor? false = some (.through proxy) := by
  simp [proxiedClient, Tunnel.ofConfig?, is_plain, is_http, Tunnel.through]

variable (is_plain : config.secure = false) (is_http : proxy.kind = .http)
include is_plain is_http

/-- The proxied request is the direct one on its way through the proxy. -/
theorem routed_carry (method host : String) (port : UInt16) (secure : Bool) {uri : String}
    (headers : Option Headers) (relative : isAbsolute uri = false) :
    (proxiedClient config proxy closed).routed method host port secure uri headers =
      (Tunnel.through proxy).carry
        ((directClient config closed).routed method host port secure uri headers) := by
  have straight : (directClient config closed).tunnelFor? secure = none :=
    tunnelFor_of_no_proxy rfl secure
  have absolute_uri : ((directClient config closed).routed method host port secure uri
      headers).absoluteUri =
        schemeName secure ++ "://" ++ authority host port (defaultPort secure) ++ uri :=
    Client.absoluteUri_routed method headers (.inl relative)
  cases secure with
  | true =>
      have also_straight : (proxiedClient config proxy closed).tunnelFor? true = none := rfl
      rw [Client.routed_direct straight, Client.routed_direct also_straight]
      exact (carry_secured rfl).symm
  | false =>
      have through : (proxiedClient config proxy closed).tunnelFor? false =
          some (Tunnel.through proxy) := tunnelFor_proxied is_plain is_http
      have plain : ((directClient config closed).routed method host port false uri
          headers).target.secure = false := by
        rw [Client.routed_direct straight]
        rfl
      rw [carry_plain plain, absolute_uri, Client.routed_tunnelled through,
        Client.routed_direct straight]
      rfl

theorem dispatch_carry (method host : String) (port : UInt16) (secure : Option Bool)
    {uri : String} (headers : Option Headers) (relative : isAbsolute uri = false) :
    (proxiedClient config proxy closed).dispatch method host port secure uri headers =
      ((directClient config closed).dispatch method host port secure uri headers).map
        (Tunnel.through proxy).carry := by
  rw [Client.dispatch_eq, Client.dispatch_eq]
  split
  · rfl
  · split
    · rfl
    · cases closed with
      | true => rfl
      | false =>
          rw [routed_carry is_plain is_http _ _ _ _ _ relative]
          rfl

/-- The standard answer to a response is the same request on either way. -/
theorem follow_carry (response : Response) :
    (proxiedClient config proxy closed).follow response =
      ((directClient config closed).follow response).map
        (Option.map (Tunnel.through proxy).carry) := by
  rw [Client.follow, Client.follow]
  cases resolved : Redirect.resolve? response with
  | none => rfl
  | some next =>
      have starts := (Redirect.sound_of_resolve resolved).2
      have relative : isAbsolute next.uri = false :=
        relative_of_opensPath (by simp [opensPath, starts, isAuthorityEnd])
      dsimp only
      rw [dispatch_carry is_plain is_http _ _ _ _ _ relative]
      cases (directClient config closed).dispatch next.method next.host next.port
        (some next.secure) next.uri none with
      | error error => rfl
      | ok request => rfl

/-! ## Chains -/

/-- What the standard policy decides, with the next request on its way through the proxy. -/
def Decision.carry (tunnel : Tunnel) : Decision → Decision
  | .next request => .next (tunnel.carry request)
  | decision => decision

theorem decide_carry (closed : Bool) (response : Response) :
    (proxiedClient config proxy closed).decide response =
      ((directClient config closed).decide response).carry (.through proxy) := by
  rw [Client.decide, Client.decide, follow_carry is_plain is_http]
  cases (directClient config closed).follow response with
  | error error => rfl
  | ok next? =>
      cases next? with
      | none => rfl
      | some next => rfl

omit is_plain is_http

/-- A send with the current request on its way through a proxy. -/
def SendLoop.carry (tunnel : Tunnel) (loop : SendLoop) : SendLoop :=
  { loop with current := tunnel.carry loop.current }

/-- A chain with every request on its way through a proxy. -/
def Chain.carry (tunnel : Tunnel) (chain : Chain) : Chain :=
  { chain with requests := chain.requests.map tunnel.carry }

theorem SendLoop.afterExchange_carry {tunnel : Tunnel} {loop : SendLoop}
    (result : Except ClientError Response) :
    (loop.carry tunnel).afterExchange result = loop.afterExchange result := by
  cases result with
  | error error => rfl
  | ok response => simp [afterExchange, carry]

/-- What follows a decision follows it on either way. -/
theorem SendLoop.afterDecision_carry {tunnel : Tunnel} {loop : SendLoop} (response : Response)
    (decision : Decision) :
    (loop.carry tunnel).afterDecision response (decision.carry tunnel) =
      match loop.afterDecision response decision with
      | .finished result => .finished result
      | .exchange next => .exchange (next.carry tunnel) := by
  cases decision with
  | stay => rfl
  | refuse error => rfl
  | breakDown payload => rfl
  | next request =>
      simp only [Decision.carry, afterDecision, carry, absoluteUri_carry, ← carry_following]
      split
      · rfl
      · rfl

include is_plain is_http

theorem chain_carry (loop : SendLoop) (hops : List Hop) :
    (proxiedClient config proxy closed).chain (loop.carry (.through proxy)) hops =
      ((directClient config closed).chain loop hops).carry (.through proxy) := by
  induction hops generalizing loop with
  | nil => rfl
  | cons hop hops induction =>
      have same_outcome : hop.outcome.map (loop.carry (.through proxy)).current.responseOf =
          hop.outcome.map loop.current.responseOf := by
        cases hop.outcome with
        | error error => rfl
        | ok reply => exact congrArg Except.ok (responseOf_carry reply)
      rw [Client.chain, Client.chain, same_outcome, SendLoop.afterExchange_carry]
      cases loop.afterExchange (hop.outcome.map loop.current.responseOf) with
      | finished result => rfl
      | consult response =>
          have same_decision :
              { proxiedClient config proxy closed with closed := hop.closed }.decide response =
                ({ directClient config closed with closed := hop.closed }.decide response).carry
                  (.through proxy) := decide_carry is_plain is_http hop.closed response
          dsimp only
          rw [same_decision, SendLoop.afterDecision_carry]
          cases loop.afterDecision response
            ({ directClient config closed with closed := hop.closed }.decide response) with
          | finished result => rfl
          | exchange next =>
              dsimp only
              rw [induction next]
              rfl

omit is_plain is_http

theorem isDirect_of_dispatch {client : Client} {method host uri : String} {port : UInt16}
    {secure : Option Bool} {headers : Option Headers} {request : Request}
    (no_proxy : client.config.proxy = none)
    (dispatched : client.dispatch method host port secure uri headers = .ok request) :
    request.IsDirect := by
  obtain ⟨_, _, _, rfl⟩ := Client.dispatch_ok_iff.mp dispatched
  rw [Client.routed_direct (tunnelFor_of_no_proxy no_proxy _)]
  exact ⟨rfl, rfl⟩

/-- Without a proxy every request of a chain leads to its origin. -/
theorem isDirect_of_chain {client : Client} {loop : SendLoop}
    (no_proxy : client.config.proxy = none) (first : loop.current.IsDirect) (hops : List Hop) :
    ∀ request ∈ (client.chain loop hops).requests, request.IsDirect := by
  refine Client.chain_forall first ?_ hops
  intro closed response request decided
  obtain ⟨next, _, dispatched⟩ := Client.resolved_of_decide decided
  have still_no_proxy : { client with closed }.config.proxy = none := no_proxy
  have straight : request.IsDirect := isDirect_of_dispatch still_no_proxy dispatched
  exact straight

end Clients

/-- A proxy for plain requests shows neither to a caller nor along a chain of redirects.  Of two
clients that are configured alike but for such a proxy, both refuse a call, for the same reason, or
both make a request of it.  However the exchanges end, the two sends then exchange the same
requests, on their ways, and end alike. -/
theorem proxy_is_transparent (config : Config) (proxy : Proxy) (closed : Bool)
    (method host : String) (port : UInt16) (secure : Option Bool) (uri : String)
    (headers : Option Headers) (is_plain : config.secure = false) (is_http : proxy.kind = .http)
    (starts : uri.toList.head? = some '/') :
    let direct := directClient config closed
    let proxied := proxiedClient config proxy closed
    let tunnel := Tunnel.through proxy
    (∀ error, direct.dispatch method host port secure uri headers = .error error ↔
      proxied.dispatch method host port secure uri headers = .error error) ∧
    ∀ first, direct.dispatch method host port secure uri headers = .ok first →
      ∃ second, proxied.dispatch method host port secure uri headers = .ok second ∧
        ∀ (body : Bytes) (followRedirects : Bool) (hops : List Hop),
          let chain := direct.chain (.start direct { first with body, followRedirects }) hops
          let other := proxied.chain (.start proxied { second with body, followRedirects }) hops
          List.Forall₂ (Ways tunnel) chain.requests other.requests ∧
            other.result = chain.result := by
  intro direct proxied tunnel
  have relative : isAbsolute uri = false :=
    relative_of_opensPath (by simp [opensPath, starts, isAuthorityEnd])
  have carried : proxied.dispatch method host port secure uri headers =
      (direct.dispatch method host port secure uri headers).map tunnel.carry :=
    dispatch_carry is_plain is_http method host port secure headers relative
  constructor
  · intro error
    rw [carried]
    cases direct.dispatch method host port secure uri headers with
    | error other => simp [Except.map]
    | ok request => simp [Except.map]
  · intro first dispatched
    refine ⟨tunnel.carry first, by rw [carried, dispatched]; rfl, ?_⟩
    intro body followRedirects hops chain other
    let loop : SendLoop := .start direct { first with body, followRedirects }
    have first_straight : first.IsDirect := isDirect_of_dispatch rfl dispatched
    have straight : ∀ request ∈ chain.requests, request.IsDirect :=
      isDirect_of_chain rfl first_straight hops
    have other_eq : other = chain.carry tunnel := by
      calc
        other = proxied.chain (loop.carry tunnel) hops := by
          rw [SendLoop.carry, show loop.current = { first with body, followRedirects } from rfl,
            carry_with]
          rfl
        _ = chain.carry tunnel := chain_carry is_plain is_http loop hops
    rw [other_eq]
    refine ⟨?_, rfl⟩
    refine List.forall₂_map_right_iff.mpr (List.forall₂_same.mpr ?_)
    intro request request_mem
    exact ways_carry (straight request request_mem)

/-- A chain from a plain origin to a secured one and back, with and without a proxy. -/
theorem mixed_chain_through_proxy :
    let config : Config := {}
    let proxy : Proxy := { host := "proxy", username := some "user", password := some "word" }
    let reply (status : Nat) (location : String) : Http.Reply :=
      { head :=
          { version := .http11
            status
            headers := Http.Headers.empty.append "location" (Bytes.ofString location) }
        body := [] }
    let hops : List Hop :=
      [⟨.ok (reply 302 "https://[::1]/b"), false⟩, ⟨.ok (reply 307 "http://[::1]:8080/c"), false⟩,
        ⟨.ok (reply 200 "/"), false⟩]
    let direct := directClient config false
    let proxied := proxiedClient config proxy false
    config.secure = false ∧ proxy.kind = .http ∧ "/a".toList.head? = some '/' ∧
      ∃ first second, direct.dispatch "GET" "::1" 80 none "/a" none = .ok first ∧
        proxied.dispatch "GET" "::1" 80 none "/a" none = .ok second ∧
        let chain :=
          direct.chain (.start direct { first with body := [], followRedirects := true }) hops
        let other :=
          proxied.chain (.start proxied { second with body := [], followRedirects := true }) hops
        chain.requests.map (·.target.endpoint) =
          [⟨"::1", 80, false⟩, ⟨"::1", 443, true⟩, ⟨"::1", 8080, false⟩] ∧
        List.Forall₂ (Ways (.through proxy)) chain.requests other.requests ∧
          other.result = chain.result := by
  intro config proxy reply hops direct proxied
  have dispatched : direct.dispatch "GET" "::1" 80 none "/a" none =
      .ok (direct.routed "GET" "::1" 80 false "/a" none) :=
    Client.dispatch_ok_iff.mpr ⟨by decide, by decide, rfl, rfl⟩
  obtain ⟨second, second_eq, same⟩ :=
    (proxy_is_transparent config proxy false "GET" "::1" 80 none "/a" none rfl rfl rfl).2 _
      dispatched
  refine ⟨rfl, rfl, rfl, _, second, dispatched, second_eq, ?_, same [] true hops⟩
  simp only [direct, hops, reply, config]
  decide +kernel

end Courier
