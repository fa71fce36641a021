import Courier.Proofs.Dispatch
import Courier.Proofs.Url.Network
import Courier.Send

/-!
# Redirects and absolute dispatch

The standard answer to a redirect is the request that a caller would have dispatched to the URL it
leads to.  The one finds out the security and the port of a URL otherwise than the other, but they
agree on every URL that is followed; and a response that leads nowhere is never a failure.
-/

namespace Courier

open Url (Located)

/-! ## URLs that are followed -/

/-- The schemes that redirects are followed in. -/
def Followed (scheme : String) : Prop := scheme = "http" ∨ scheme = "https"

theorem Followed.network {url : Url} (followed : Followed url.scheme) : url.kind = .network := by
  rcases followed with scheme | scheme
  · simp [Url.kind, scheme, Url.schemeKind]
  · simp [Url.kind, scheme, Url.schemeKind]

theorem effectivePort_of_known {url : Url} {secure : Bool}
    (known : Url.knownPort? url.scheme = some (defaultPort secure)) :
    url.effectivePort? = some (url.port.getD (defaultPort secure)) := by
  rw [Url.effectivePort?, known]
  cases url.port with
  | none => rfl
  | some port => rfl

/-- The exact scheme, its last letter, the port that it implies and the name that a request has for
it all tell the same. -/
theorem Followed.told {scheme : String} (followed : Followed scheme) :
    ∃ secure, schemeName secure = scheme ∧ Redirect.security? scheme = some secure ∧
      Client.schemeSecurity? scheme = some secure ∧
      Url.knownPort? scheme = some (defaultPort secure) := by
  rcases followed with rfl | rfl
  · exact ⟨false, rfl, rfl, by decide, rfl⟩
  · exact ⟨true, rfl, rfl, by decide, rfl⟩

theorem Followed.agree {url : Url} (followed : Followed url.scheme) :
    ∃ secure, Redirect.security? url.scheme = some secure ∧
      Client.schemeSecurity? url.scheme = some secure ∧
      url.effectivePort? = some (url.port.getD (defaultPort secure)) := by
  obtain ⟨secure, _, security, last_letter, known⟩ := followed.told
  exact ⟨secure, security, last_letter, effectivePort_of_known known⟩

theorem followed_of_security {scheme : String} {secure : Bool}
    (security : Redirect.security? scheme = some secure) : Followed scheme := by
  rw [Redirect.security?.eq_def] at security
  split at security
  · exact .inl rfl
  · exact .inr rfl
  · simp at security

/-! ## Where a response leads -/

/-- The method with which a response is followed. -/
inductive Asks (response : Response) : String → Prop
  | get (moved : response.status ∈ [301, 302, 303]) : Asks response "GET"
  | same (temporary : response.status = 307) : Asks response response.method

/-- A response leads to a URL: it redirects, and its `Location` stands for that URL where the
request was sent. -/
structure Leads (response : Response) (method : String) (destination : Url) : Prop where
  asks : Asks response method
  resolved : ∃ location base, response.location? = some location ∧
    Url.parse response.absoluteUri = .ok base ∧ base.join location = .ok destination
  followed : Followed destination.scheme

theorem Leads.located {response : Response} {method : String} {destination : Url}
    (leads : Leads response method destination) : Located destination := by
  obtain ⟨location, base, _, parsed, joined⟩ := leads.resolved
  have base_sound := Url.parse_sound response.absoluteUri base parsed
  exact Url.join_sound base_sound location destination joined leads.followed.network

namespace Redirect

theorem method?_eq_some_iff {response : Response} {method : String} :
    method? response.status response.method = some method ↔ Asks response method := by
  rw [method?]
  constructor
  · intro asked
    split at asked
    · rename_i moved
      cases asked
      exact .get moved
    · split at asked
      · rename_i temporary
        cases asked
        exact .same (by simpa using temporary)
      · simp at asked
  · rintro (moved | temporary)
    · rw [if_pos moved]
    · simp [temporary]

theorem destination?_eq_some_iff {base reference : String} {destination : Url} :
    destination? base reference = some destination ↔
      ∃ url, Url.parse base = .ok url ∧ url.join reference = .ok destination := by
  simp only [destination?, Option.bind_eq_bind, Option.bind_eq_some_iff, toOption_eq_some_iff]

/-- A URL that redirects are followed to stands for a request. -/
theorem ofUrl?_of_located (method : String) {url : Url} (followed : Followed url.scheme)
    (located : Located url) :
    ∃ secure host, Bare host ∧ Client.schemeSecurity? url.scheme = some secure ∧
      url.hostText? = some host ∧
      ofUrl? method url = some
        { method
          host
          port := url.port.getD (defaultPort secure)
          secure
          uri := url.target } := by
  obtain ⟨secure, security, last_letter, port⟩ := followed.agree
  obtain ⟨host, host_eq, bare⟩ := located.host
  have text_eq := Url.hostText?_of_host host_eq
  refine ⟨secure, host.text, bare, last_letter, text_eq, ?_⟩
  simp [ofUrl?, security, text_eq, port]

theorem followed_of_ofUrl {method : String} {url : Url} {next : Redirect}
    (stands : ofUrl? method url = some next) : Followed url.scheme := by
  rw [ofUrl?] at stands
  obtain ⟨secure, security, _⟩ := Option.bind_eq_some_iff.mp stands
  exact followed_of_security security

theorem resolve?_eq_some_iff {response : Response} {next : Redirect} :
    resolve? response = some next ↔
      ∃ method destination, Leads response method destination ∧
        ofUrl? method destination = some next := by
  constructor
  · intro resolved
    simp only [resolve?, Option.bind_eq_bind, Option.bind_eq_some_iff] at resolved
    obtain ⟨method, asked, location, located, destination, joined, stands⟩ := resolved
    obtain ⟨base, parsed, joined⟩ := destination?_eq_some_iff.mp joined
    exact ⟨method, destination, ⟨method?_eq_some_iff.mp asked,
      ⟨location, base, located, parsed, joined⟩, followed_of_ofUrl stands⟩, stands⟩
  · rintro ⟨method, destination, ⟨asks, ⟨location, base, located, parsed, joined⟩, _⟩, stands⟩
    have found : destination? response.absoluteUri location = some destination :=
      destination?_eq_some_iff.mpr ⟨base, parsed, joined⟩
    simp [resolve?, method?_eq_some_iff.mpr asks, located, found, stands]

/-- A redirect names a bare host and begins its URI with a slash. -/
theorem sound_of_resolve {response : Response} {next : Redirect}
    (resolved : resolve? response = some next) :
    Bare next.host ∧ next.uri.toList.head? = some '/' := by
  obtain ⟨method, destination, leads, stands⟩ := resolve?_eq_some_iff.mp resolved
  obtain ⟨secure, host, bare, _, _, stands_eq⟩ :=
    ofUrl?_of_located method leads.followed leads.located
  cases stands_eq.symm.trans stands
  exact ⟨bare, leads.located.target_head⟩

end Redirect

namespace Client

variable {client : Client} {method host text uri : String} {url : Url} {secure : Bool}

/-- A call that names a bare host and a URI fails only at a closed client. -/
theorem dispatch_of_bare (bare : Bare host) (named : uri.isEmpty = false) (port : UInt16)
    (secure : Option Bool) (headers : Option Http.Headers) :
    client.dispatch method host port secure uri headers =
      if client.closed then .error .clientClosed
      else .ok (client.routed method host port (secure.getD client.config.secure) uri headers) := by
  rw [dispatch_eq, bareHost_of_bare bare, bare.named, named]
  rfl

theorem dispatchAbsolute_of_parse (parsed : Url.parse text = .ok url)
    (security : schemeSecurity? url.scheme = some secure) (named : url.hostText? = some host) :
    client.dispatchAbsolute method text =
      client.dispatch method host (url.port.getD (defaultPort secure)) (some secure) url.target
        none := by
  simp [dispatchAbsolute, parsed, security, named]

/-- The standard policy names only requests that a redirect stands for. -/
theorem resolved_of_decide {response : Response} {request : Request}
    (decided : client.decide response = .next request) :
    ∃ next, Redirect.resolve? response = some next ∧
      client.dispatch next.method next.host next.port (some next.secure) next.uri none =
        .ok request := by
  rw [decide, follow] at decided
  cases resolved : Redirect.resolve? response with
  | none => simp [resolved] at decided
  | some next =>
      refine ⟨next, rfl, ?_⟩
      rw [resolved] at decided
      cases dispatched : client.dispatch next.method next.host next.port (some next.secure)
        next.uri none with
      | error error => simp [dispatched, Except.map] at decided
      | ok named =>
          simp only [dispatched, Except.map, Decision.next.injEq] at decided
          rw [decided]

/-- The standard answer to a response that leads to a URL is the request that is dispatched to that
URL, or that the client is closed; to any other response it is that the response stands. -/
theorem follow_agrees_with_dispatchAbsolute (client : Client) (response : Response) :
    (∀ method destination, Leads response method destination →
      (∀ text, Url.parse text = .ok destination →
        client.follow response = (client.dispatchAbsolute method text).map some) ∧
      (client.closed = false → ∃ request, client.follow response = .ok (some request)) ∧
      (client.closed = true → client.follow response = .error .clientClosed)) ∧
    ((∀ method destination, ¬Leads response method destination) →
      client.follow response = .ok none) := by
  constructor
  · intro method destination leads
    obtain ⟨secure, host, bare, last_letter, host_eq, stands⟩ :=
      Redirect.ofUrl?_of_located method leads.followed leads.located
    have resolved := Redirect.resolve?_eq_some_iff.mpr ⟨method, destination, leads, stands⟩
    have followed : client.follow response =
        (client.dispatch method host (destination.port.getD (defaultPort secure)) (some secure)
          destination.target none).map some := by
      rw [follow, resolved]
    refine ⟨?_, ?_, ?_⟩
    · intro text parsed
      rw [followed, dispatchAbsolute_of_parse parsed last_letter host_eq]
    · intro is_open
      rw [followed, dispatch_of_bare bare leads.located.target_named, if_neg (by simp [is_open])]
      exact ⟨_, rfl⟩
    · intro closed
      rw [followed, dispatch_of_bare bare leads.located.target_named, if_pos closed]
      rfl
  · intro leads_nowhere
    cases resolved : Redirect.resolve? response with
    | none => rw [follow, resolved]
    | some next =>
        obtain ⟨method, destination, leads, _⟩ := Redirect.resolve?_eq_some_iff.mp resolved
        exact absurd leads (leads_nowhere method destination)

/-- A response from behind a proxy that leads to another path of its origin. -/
theorem follow_of_relative_location :
    let client : Client := { config := { proxy := some { host := "proxy", port := 3128 } } }
    let response : Response :=
      { status := 303, headers := Http.Headers.empty.append "location" (Bytes.ofString "../b?c"),
        body := [], method := "POST", absoluteUri := "http://[::1]:8080/a/" }
    let text := "http://[::1]:8080/b?c"
    client.follow response = (client.dispatchAbsolute "GET" text).map some ∧
      (∃ request, client.follow response = .ok (some request)) ∧
      { client with closed := true }.follow response = .error .clientClosed ∧
      client.follow { response with status := 304 } = .ok none := by
  intro client response text
  let destination : Url :=
    { scheme := "http", host := some (.ipv6 [0, 0, 0, 0, 0, 0, 0, 1]), port := some 8080,
      path := .segments ["b"], query := some "c" }
  have resolved : Redirect.destination? response.absoluteUri "../b?c" = some destination := by
    decide +kernel
  obtain ⟨base, base_parsed, joined⟩ := Redirect.destination?_eq_some_iff.mp resolved
  have leads : Leads response "GET" destination :=
    ⟨.get (by decide), ⟨"../b?c", base, by decide, base_parsed, joined⟩, .inl rfl⟩
  have parsed : Url.parse text = .ok destination :=
    toOption_eq_some_iff.mp (by decide +kernel)
  have stays : ∀ method destination, ¬Leads { response with status := 304 } method destination := by
    rintro method destination ⟨moved | temporary, _, _⟩
    · exact absurd moved (by decide)
    · exact absurd temporary (by decide)
  have agrees := (follow_agrees_with_dispatchAbsolute client response).1 "GET" destination leads
  refine ⟨agrees.1 text parsed, agrees.2.1 rfl, ?_, ?_⟩
  · exact ((follow_agrees_with_dispatchAbsolute { client with closed := true } response).1 "GET"
      destination leads).2.2 rfl
  · exact (follow_agrees_with_dispatchAbsolute client { response with status := 304 }).2 stays

end Client

end Courier
