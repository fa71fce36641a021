import Courier.Proofs.Http.Headers
import Courier.Proofs.Redirect
import Courier.Proofs.Sending.Chain
import Mathlib.Data.List.Infix

/-!
# Requests after a redirect

A send under the standard policy takes nothing of what its first request carries along.  Every
later request is empty but for the credentials of the proxy that it goes through, and the later
requests of two sends whose first requests differ only in what they carry are the same.
-/

namespace Courier

open Http (Headers)

variable {client : Client} {request : Request}

/-! ## Fresh requests -/

/-- The fields that a client adds to the headers of a request: the credentials of its proxy, if the
request goes there. -/
def Client.addedFields (client : Client) (secure : Bool) : List (String × Bytes) :=
  match (client.tunnelFor? secure).bind (·.authorization) with
  | some value => [(proxyAuthorization, value)]
  | none => []

/-- A request carries nothing but what its client has added. -/
structure Fresh (client : Client) (request : Request) : Prop where
  body : request.body = []
  headers : (request.headers.getD .empty).entries = client.addedFields request.target.secure
  /-- Nothing but these fields and the name of the origin is written after the first line. -/
  written : ∀ written, request.outgoing = .ok written →
    written.bytes = Http.Outgoing.headBytes written.line
      ⟨client.addedFields request.target.secure ++
        [("host", Bytes.ofString request.target.hostHeader)]⟩

theorem Request.outgoing_ok_iff {written : Http.Outgoing} :
    request.outgoing = .ok written ↔
      ∃ target, Http.RequestTarget.parse request.target.uri = .ok target ∧
        Http.isHeaderText (Bytes.ofString request.target.hostHeader) = true ∧
        written =
          { method := request.method
            target
            headers := (request.headers.getD .empty).insert "host"
              (Bytes.ofString request.target.hostHeader)
            body := request.body } := by
  rw [outgoing]
  cases parsed : Http.RequestTarget.parse request.target.uri with
  | error cause => simp
  | ok target =>
      by_cases text : Http.isHeaderText (Bytes.ofString request.target.hostHeader) = true
      · simp [text, eq_comm]
      · simp [text]

theorem mem_addedFields {secure : Bool} {field : String × Bytes}
    (field_mem : field ∈ client.addedFields secure) : field.1 = proxyAuthorization := by
  rw [Client.addedFields] at field_mem
  split at field_mem
  · rw [List.mem_singleton.mp field_mem]
  · simp at field_mem

theorem fresh_of_empty (body : request.body = [])
    (headers : (request.headers.getD .empty).entries = client.addedFields request.target.secure) :
    Fresh client request := by
  refine ⟨body, headers, ?_⟩
  intro written writable
  obtain ⟨target, _, _, rfl⟩ := Request.outgoing_ok_iff.mp writable
  have added : request.headers.getD .empty = ⟨client.addedFields request.target.secure⟩ :=
    congrArg Headers.mk headers
  have erase_added (name : String) (name_ne : name ≠ proxyAuthorization) :
      Headers.erase ⟨client.addedFields request.target.secure⟩ name =
        ⟨client.addedFields request.target.secure⟩ := by
    apply Headers.erase_eq_self
    intro field field_mem
    rw [mem_addedFields field_mem]
    exact name_ne.symm
  have lower_host : Ascii.lower "host" = "host" := by decide
  rw [Http.Outgoing.bytes, if_pos (by rw [body]; rfl), added, Headers.insert, lower_host,
    Headers.erase_append_of_ne (by decide), erase_added "host" (by decide),
    erase_added "transfer-encoding" (by decide), Headers.append, lower_host]

theorem headers_routed (client : Client) (method host : String) (port : UInt16) (secure : Bool)
    (uri : String) :
    ((client.routed method host port secure uri none).headers.getD .empty).entries =
      client.addedFields secure := by
  cases route : client.tunnelFor? secure with
  | none => simp [Client.routed_direct route, Client.addedFields, route, Headers.empty]
  | some tunnel =>
      cases credentials : tunnel.authorization with
      | none =>
          simp [Client.routed_tunnelled route, Client.addedFields, route, Tunnel.authorize,
            credentials, Headers.empty]
      | some value =>
          simp [Client.routed_tunnelled route, Client.addedFields, route, Tunnel.authorize,
            credentials, Headers.empty, Headers.insert, Headers.erase, Headers.append]

/-- The standard policy names fresh requests. -/
theorem fresh_of_decide (closed : Bool) (response : Response) (request : Request)
    (decided : { client with closed }.decide response = .next request) :
    Fresh client { request with followRedirects := true } := by
  obtain ⟨next, _, dispatched⟩ := Client.resolved_of_decide decided
  obtain ⟨_, _, _, rfl⟩ := Client.dispatch_ok_iff.mp dispatched
  obtain ⟨_, _, _, secure_eq, _, body, _⟩ := { client with closed }.routed_common next.method
    (bareHost next.host) next.port next.secure next.uri none
  refine fresh_of_empty body ?_
  dsimp only
  rw [Option.getD_some, secure_eq]
  exact headers_routed _ _ _ _ _ _

/-! ## Two first requests -/

/-- What the first request of a chain carries does not matter for the rest of it. -/
theorem chain_forgets (client : Client) (loop : SendLoop) (headers : Option Headers)
    (body : Bytes) (hops : List Hop) :
    let laden := { loop with current := { loop.current with headers, body } }
    (client.chain laden hops).requests.tail = (client.chain loop hops).requests.tail ∧
      (client.chain laden hops).result = (client.chain loop hops).result := by
  intro laden
  cases hops with
  | nil => exact ⟨rfl, rfl⟩
  | cons hop hops =>
      have same_response : laden.afterExchange (hop.outcome.map laden.current.responseOf) =
          loop.afterExchange (hop.outcome.map loop.current.responseOf) := by
        cases hop.outcome <;> rfl
      rw [Client.chain, Client.chain, same_response]
      cases loop.afterExchange (hop.outcome.map loop.current.responseOf) with
      | finished result => exact ⟨rfl, rfl⟩
      | consult response =>
          have same_decision (decision : Decision) :
              laden.afterDecision response decision = loop.afterDecision response decision := by
            cases decision <;> rfl
          dsimp only
          rw [same_decision]
          cases loop.afterDecision response ({ client with closed := hop.closed }.decide response)
            with
          | finished result => exact ⟨rfl, rfl⟩
          | exchange next => exact ⟨rfl, rfl⟩

/-! ## Chains and closed clients -/

/-- The chain of a client that stays open. -/
def Client.openChain (client : Client) (loop : SendLoop)
    (outcomes : List (Except ClientError Http.Reply)) : Chain :=
  client.chain loop (outcomes.map (⟨·, false⟩))

theorem decide_of_closed {response : Response} {request : Request} :
    { client with closed := true }.decide response ≠ .next request := by
  intro decided
  obtain ⟨next, _, dispatched⟩ := Client.resolved_of_decide decided
  obtain ⟨_, _, is_open, _⟩ := Client.dispatch_ok_iff.mp dispatched
  cases is_open

/-- A client that is closed meanwhile can only end a chain early. -/
theorem chain_isPrefix_openChain (client : Client) (loop : SendLoop) (hops : List Hop) :
    (client.chain loop hops).requests <+:
      (client.openChain loop (hops.map Hop.outcome)).requests := by
  induction hops generalizing loop with
  | nil => exact List.prefix_rfl
  | cons hop hops induction =>
      have begins : [loop.current] <+:
          (client.openChain loop ((hop :: hops).map Hop.outcome)).requests := by
        rw [Client.openChain, Client.requests_chain]
        exact List.prefix_append [loop.current] _
      obtain ⟨outcome, closed⟩ := hop
      rw [Client.chain]
      cases consulted : loop.afterExchange (outcome.map loop.current.responseOf) with
      | finished result => exact begins
      | consult response =>
          dsimp only
          cases closed with
          | true =>
              cases goes_on : loop.afterDecision response
                ({ client with closed := true }.decide response) with
              | finished result => exact begins
              | exchange next =>
                  obtain ⟨request, decided, _⟩ := SendLoop.named_of_exchange goes_on
                  exact absurd decided decide_of_closed
          | false =>
              rw [Client.openChain, List.map_cons, List.map_cons, Client.chain, consulted]
              dsimp only
              cases loop.afterDecision response
                ({ client with closed := false }.decide response) with
              | finished result => exact List.prefix_rfl
              | exchange next => exact (List.prefix_cons_inj loop.current).mpr (induction next)

theorem tail_isPrefix {requests others : List Request} (initial : requests <+: others) :
    requests.tail <+: others.tail := by
  simpa using initial.drop 1

namespace Sending

/-- A send has begun requests of the chain that it takes if its client stays open. -/
theorem begun_isPrefix_openChain (clients : Nat → Client) (owner policy : Nat) (request : Request)
    (actions : List Action) {hops : List Hop}
    (met : Met hops ((start clients owner policy request).runStandard owner actions).history) :
    (begun ((start clients owner policy request).runStandard owner actions).history).reverse <+:
      ((clients owner).openChain (.start (clients owner) request)
        (hops.map Hop.outcome)).requests := by
  obtain ⟨own_hops, own_met, begun_initial⟩ :=
    ((chained_start clients owner policy request).run actions).along.begun_isPrefix
  rw [outcomes_of_met met own_met]
  exact begun_initial.trans (chain_isPrefix_openChain _ _ own_hops)

/-- Nothing of the first request but its method and target has to do with the requests after it.
Two sends whose first requests differ only in their headers and bodies take the same chain from the
second request on and end alike, however their exchanges end; and whatever others do meanwhile, of
two such sends whose exchanges have ended alike the one has begun the same later requests as the
other, as far as both have come.  All these requests are fresh. -/
theorem redirects_carry_nothing (clients : Nat → Client) (owner : Nat) (first : Request)
    (headers otherHeaders : Option Headers) (body otherBody : Bytes) :
    let client := clients owner
    let request := { first with headers, body }
    let otherRequest := { first with headers := otherHeaders, body := otherBody }
    (∀ hops,
      let chain := client.chain (.start client request) hops
      let otherChain := client.chain (.start client otherRequest) hops
      otherChain.requests.tail = chain.requests.tail ∧ otherChain.result = chain.result ∧
        ∀ later ∈ chain.requests.tail, Fresh client later) ∧
    ∀ (policy otherPolicy : Nat) (actions otherActions : List Action),
      let sending := (start clients owner policy request).runStandard owner actions
      let other := (start clients owner otherPolicy otherRequest).runStandard owner otherActions
      let later := (begun sending.history).reverse.tail
      let otherLater := (begun other.history).reverse.tail
      (∀ request ∈ later, Fresh client request) ∧
        ∀ hops, Met hops sending.history → Met hops other.history →
          later <+: otherLater ∨ otherLater <+: later := by
  intro client request otherRequest
  have forgets (hops : List Hop) :
      (client.chain (.start client otherRequest) hops).requests.tail =
          (client.chain (.start client request) hops).requests.tail ∧
        (client.chain (.start client otherRequest) hops).result =
          (client.chain (.start client request) hops).result :=
    chain_forgets client (.start client request) otherHeaders otherBody hops
  have fresh (hops : List Hop) :
      ∀ later ∈ (client.chain (.start client request) hops).requests.tail, Fresh client later :=
    Client.chain_tail_forall fresh_of_decide _ hops
  constructor
  · intro hops chain otherChain
    exact ⟨(forgets hops).1, (forgets hops).2, fresh hops⟩
  · intro policy otherPolicy actions otherActions sending other later otherLater
    constructor
    · obtain ⟨hops, _, begun_initial⟩ :=
        ((chained_start clients owner policy request).run actions).along.begun_isPrefix
      intro request request_mem
      exact fresh hops request ((tail_isPrefix begun_initial).subset request_mem)
    · intro hops met other_met
      have later_initial := tail_isPrefix
        (begun_isPrefix_openChain clients owner policy request actions met)
      have other_initial := tail_isPrefix
        (begun_isPrefix_openChain clients owner otherPolicy otherRequest otherActions other_met)
      have same_tail : (client.openChain (.start client otherRequest)
          (hops.map Hop.outcome)).requests.tail =
            (client.openChain (.start client request) (hops.map Hop.outcome)).requests.tail :=
        (forgets _).1
      rw [same_tail] at other_initial
      exact List.prefix_or_prefix_of_prefix later_initial other_initial

/-- A login that is posted through a proxy is redirected to another port.  Neither its cookie nor
its body is sent there. -/
theorem login_stays_behind :
    let clients : Nat → Client := fun _ =>
      { config :=
          { proxy := some { host := "proxy", username := some "user", password := some "word" } } }
    let first : Request :=
      { method := "POST"
        target := ⟨"::1", 80, false, "http://[::1]/login", "proxy", 3128, "[::1]"⟩
        followRedirects := true }
    let cookie := some (Headers.empty.append "cookie" (Bytes.ofString "token"))
    let secret := Bytes.ofString "secret"
    let answer := "HTTP/1.1 307 Moved\r\nLocation: http://[::1]:8080/b\r\nContent-Length: 0\r\n\r\n"
    let outside : Outside :=
      { answer := .ok ()
        speech := ⟨[Bytes.ofString answer], false⟩
        decision := .stay
        client := 0 }
    let actions : List Action := List.replicate 5 (.turn outside)
    let reply : Http.Reply :=
      { head :=
          { version := .http11
            status := 307
            headers := .ofList
              [("location", Bytes.ofString "http://[::1]:8080/b"),
                ("content-length", Bytes.ofString "0")] }
        body := [] }
    let second : Request :=
      { method := "POST"
        target := ⟨"::1", 8080, false, "http://[::1]:8080/b", "proxy", 3128, "[::1]:8080"⟩
        headers := some ⟨[(proxyAuthorization, Tunnel.basicCredentials "user" "word")]⟩
        followRedirects := true }
    let sending :=
      (start clients 0 0 { first with headers := cookie, body := secret }).runStandard 0 actions
    let other :=
      (start clients 0 0 { first with headers := none, body := [] }).runStandard 0 actions
    let later := (begun sending.history).reverse.tail
    let otherLater := (begun other.history).reverse.tail
    Met [⟨.ok reply, false⟩] sending.history ∧ Met [⟨.ok reply, false⟩] other.history ∧
      second ∈ later ∧ Fresh (clients 0) second ∧
      (later <+: otherLater ∨ otherLater <+: later) := by
  intro clients first cookie secret answer outside actions reply second sending other later
    otherLater
  have runs (headers : Option Headers) (body : Bytes) :
      ((start clients 0 0 { first with headers, body }).runStandard 0 actions).history =
        [.asked 0 second.target.endpoint, .began 0 second,
          .decided 0 (.next { second with followRedirects := false }) 0,
          .exchanged { first with headers, body } (.ok (first.responseOf reply)), .connected,
          .asked 0 first.target.endpoint, .began 0 { first with headers, body }] := by
    let began := start clients 0 0 { first with headers, body }
    have parsed : ∃ target, Http.RequestTarget.parse "http://[::1]/login" = .ok target :=
      ⟨_, by rfl⟩
    have text : Http.isHeaderText (Bytes.ofString "[::1]") = true := by decide
    obtain ⟨target, parsed⟩ := parsed
    have writable : ∃ written, { first with headers, body }.outgoing = .ok written :=
      ⟨_, Request.outgoing_ok_iff.mpr ⟨target, parsed, text, rfl⟩⟩
    obtain ⟨written, writable⟩ := writable
    have spoken : outside.speech.outcome ((clients 0).readingTerms { first with headers, body }) =
        .ok reply := by
      rw [show (clients 0).readingTerms { first with headers, body } =
        (clients 0).readingTerms first from rfl]
      decide +kernel
    have decided : (clients 0).decide (first.responseOf reply) =
        .next { second with followRedirects := false } := by
      decide +kernel
    have within : ¬(0 : UInt32) + 1 > 16 := by decide
    have round := runStandard_round began 0 outside rfl rfl writable rfl spoken rfl decided within
    have turns : began.runStandard 0 actions =
        (began.runStandard 0 (List.replicate 4 (.turn outside))).runStandard 0
          [.turn outside] := rfl
    rw [turns, round]
    rfl
  have met (headers : Option Headers) (body : Bytes) :
      Met [⟨.ok reply, false⟩]
        ((start clients 0 0 { first with headers, body }).runStandard 0 actions).history := by
    rw [runs]
    exact .cons rfl .nil
  have second_mem : second ∈ later := by
    rw [show later = [second] from congrArg (fun history => (begun history).reverse.tail)
      (runs cookie secret)]
    exact List.mem_singleton_self second
  obtain ⟨fresh, same⟩ :=
    (redirects_carry_nothing clients 0 first cookie none secret []).2 0 0 actions actions
  exact ⟨met _ _, met _ _, second_mem, fresh second second_mem, same _ (met _ _) (met _ _)⟩

end Sending

end Courier
