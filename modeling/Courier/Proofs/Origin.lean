import Courier.Proofs.Dispatch
import Courier.Proofs.Text
import Courier.WebSocket.Upgrade

/-!
# Origins in URIs

A URI that is put together from an authority and the text of a caller names that authority exactly
if the text begins with a slash, a question mark or a number sign.  What comes before the first of
these is otherwise read as a part of the authority.
-/

namespace Courier

open Http (Headers)
open WebSocket (Destination Options UpgradeStream)

/-! ## Schemes and authorities -/

/-- A character that ends the authority of a URI. -/
def isAuthorityEnd (char : Char) : Bool := char ∈ ['/', '?', '#']

/-- What still belongs to an authority if a text follows it. -/
def lead (text : List Char) : List Char := text.takeWhile (!isAuthorityEnd ·)

/-- The scheme of a URI and its authority, which stands after `://`. -/
def schemeAndAuthority? (uri : String) : Option (String × String) :=
  match uri.toList.dropWhile (· != ':') with
  | ':' :: '/' :: '/' :: rest =>
    some (String.ofList (uri.toList.takeWhile (· != ':')), String.ofList (lead rest))
  | _ => none

/-- Whether a text begins with a character that ends an authority. -/
def opensPath (uri : String) : Bool := uri.toList.head?.any isAuthorityEnd

/-- A text that could stand in an authority. -/
def Unbroken (text : String) : Prop := ∀ char ∈ text.toList, isAuthorityEnd char = false

theorem lead_append {authority : List Char}
    (unbroken : ∀ char ∈ authority, isAuthorityEnd char = false) (rest : List Char) :
    lead (authority ++ rest) = authority ++ lead rest := by
  apply List.takeWhile_append_of_pos
  simpa using unbroken

theorem schemeAndAuthority?_append {scheme authority : String} (rest : String)
    (scheme_plain : ∀ char ∈ scheme.toList, char ≠ ':') (unbroken : Unbroken authority) :
    schemeAndAuthority? (scheme ++ "://" ++ authority ++ rest) =
      some (scheme, authority ++ String.ofList (lead rest.toList)) := by
  have before : ∀ char ∈ scheme.toList, (char != ':') = true := by simpa using scheme_plain
  have split_eq : (scheme ++ "://" ++ authority ++ rest).toList =
      scheme.toList ++ ':' :: '/' :: '/' :: (authority.toList ++ rest.toList) := by
    simp [String.toList_append]
  rw [schemeAndAuthority?, split_eq, List.dropWhile_append_of_pos before,
    List.takeWhile_append_of_pos before]
  simp [lead_append unbroken, String.ofList_append]

theorem lead_eq_nil_iff {uri : String} (named : uri.isEmpty = false) :
    lead uri.toList = [] ↔ opensPath uri = true := by
  cases chars : uri.toList with
  | nil =>
      have empty : uri = "" := String.toList_inj.mp chars
      simp [empty] at named
  | cons first rest => simp [lead, opensPath, chars, List.takeWhile_cons]

/-- Exactly a text that begins with the end of an authority leaves the authority before it alone. -/
theorem names_authority_iff {scheme authority uri : String}
    (scheme_plain : ∀ char ∈ scheme.toList, char ≠ ':') (unbroken : Unbroken authority)
    (named : uri.isEmpty = false) :
    schemeAndAuthority? (scheme ++ "://" ++ authority ++ uri) = some (scheme, authority) ↔
      opensPath uri = true := by
  rw [schemeAndAuthority?_append uri scheme_plain unbroken, ← lead_eq_nil_iff named]
  constructor
  · intro same
    have chars_eq : authority.toList ++ lead uri.toList = authority.toList := by
      have second := congrArg (·.2.toList) (Option.some.inj same)
      simpa [String.toList_append] using second
    simpa using chars_eq
  · intro none_left
    simp [none_left]

/-! ## Hosts and ports in an authority -/

theorem unbroken_port (port : UInt16) : Unbroken (toString port) := by
  intro char char_mem
  have written : toString port = toString port.toNat := rfl
  rw [written] at char_mem
  have digit : char.isDigit = true := isDigit_of_mem_toString char_mem
  have others : ['/', '?', '#'].any Char.isDigit = false := by decide
  rw [isAuthorityEnd, decide_eq_false_iff_not]
  intro mark
  exact List.any_eq_false.mp others char mark digit

theorem unbroken_authorityHost {host : String} (unbroken : Unbroken host) :
    Unbroken (authorityHost host) := by
  rw [authorityHost]
  split
  · refine forall_mem_toList_append (forall_mem_toList_append ?_ unbroken) ?_
    · simp [isAuthorityEnd]
    · simp [isAuthorityEnd]
  · exact unbroken

theorem unbroken_hostAndPort {host : String} (unbroken : Unbroken host) (port : UInt16) :
    Unbroken (authorityHost host ++ ":" ++ toString port) := by
  have before := unbroken_authorityHost unbroken
  refine forall_mem_toList_append (forall_mem_toList_append before ?_) (unbroken_port port)
  simp [isAuthorityEnd]

theorem unbroken_authority {host : String} (unbroken : Unbroken host) (port standard : UInt16) :
    Unbroken (authority host port standard) := by
  rw [authority]
  split
  · exact unbroken_authorityHost unbroken
  · exact unbroken_hostAndPort unbroken port

/-- A host without its brackets is a part of it. -/
theorem bareHost_subset (host : String) : (bareHost host).toList ⊆ host.toList := by
  rw [bareHost]
  split
  · rename_i rest opened
    split
    · rename_i inner closed
      have rest_eq : rest = inner.reverse ++ [']'] := by
        rw [← List.reverse_reverse rest, closed, List.reverse_cons]
      rw [opened, rest_eq, String.toList_ofList]
      intro char char_mem
      simp [char_mem]
    · exact List.Subset.refl _
  · exact List.Subset.refl _

theorem unbroken_bareHost {host : String} (unbroken : Unbroken host) : Unbroken (bareHost host) :=
  fun char char_mem => unbroken char (bareHost_subset host char_mem)

/-! ## Requests and WebSockets -/

theorem schemeName_plain (secure : Bool) :
    ∀ char ∈ (schemeName secure).toList, char ≠ ':' := by
  cases secure <;> simp [schemeName]

/-- The URIs of a request name the origin that its `Host` header names, in the scheme that its
security asks for: the one that redirects are resolved against, and the target that is written to a
proxy. -/
structure NamesOrigin (client : Client) (request : Request) : Prop where
  absolute : schemeAndAuthority? request.absoluteUri =
    some (schemeName request.target.secure, request.target.hostHeader)
  tunnelled : client.tunnelFor? request.target.secure ≠ none →
    schemeAndAuthority? request.target.uri = some ("http", request.target.hostHeader)

theorem routed_namesOrigin_iff {client : Client} {host uri : String} {secure : Bool}
    (method : String) (port : UInt16) (headers : Option Headers) (unbroken : Unbroken host)
    (named : uri.isEmpty = false)
    (tells : isAbsolute uri = false ∨ client.tunnelFor? secure ≠ none) :
    NamesOrigin client (client.routed method host port secure uri headers) ↔
      opensPath uri = true := by
  have absolute_iff := names_authority_iff (schemeName_plain secure)
    (unbroken_authority unbroken port (defaultPort secure)) named
  rw [← Client.absoluteUri_routed method headers tells] at absolute_iff
  obtain ⟨_, _, _, secure_eq, header_eq, _⟩ :=
    client.routed_common method host port secure uri headers
  constructor
  · rintro ⟨absolute, _⟩
    rw [secure_eq, header_eq] at absolute
    exact absolute_iff.mp absolute
  · intro opens
    refine ⟨?_, ?_⟩
    · rw [secure_eq, header_eq]
      exact absolute_iff.mpr opens
    · rw [secure_eq]
      intro tunnelled
      obtain ⟨tunnel, route⟩ := Option.ne_none_iff_exists'.mp tunnelled
      cases Client.plain_of_tunnelFor? route
      rw [Client.routed_tunnelled route]
      exact (names_authority_iff (schemeName_plain false)
        (unbroken_authority unbroken port plainPort) named).mpr opens

/-- The scheme of a WebSocket. -/
def webSocketScheme (secure : Bool) : String := if secure then "wss" else "ws"

theorem webSocketScheme_plain (secure : Bool) :
    ∀ char ∈ (webSocketScheme secure).toList, char ≠ ':' := by
  cases secure <;> simp [webSocketScheme]

theorem url_names_iff {destination : Destination} {uri : String}
    (unbroken : Unbroken destination.host) (named : uri.isEmpty = false) :
    schemeAndAuthority? (destination.url uri) =
        some (webSocketScheme destination.secure,
          authorityHost destination.host ++ ":" ++ toString destination.port) ↔
      opensPath uri = true := by
  have names_iff := names_authority_iff (webSocketScheme_plain destination.secure)
    (unbroken_hostAndPort unbroken destination.port) named
  rw [← names_iff]
  simp only [Destination.url, webSocketScheme, String.append_assoc]

/-- The upgrade that a handler starts has a URI. -/
theorem named_of_started {η : Type} {stream after : UpgradeStream η} {client : Client}
    {destination : Destination}
    (started : stream.subscribe client = (after, .started destination)) :
    stream.options.uri.isEmpty = false ∧
      destination = stream.options.destination client.config := by
  rw [UpgradeStream.subscribe] at started
  split at started
  · simp at started
  · dsimp only at started
    split at started
    · simp at started
    · rename_i checked
      split at started
      · simp at started
      · rw [UpgradeStream.checkArguments] at checked
        split at checked
        · simp at checked
        · split at checked
          · simp at checked
          · simp_all

theorem relative_of_opensPath {uri : String} (opens : opensPath uri = true) :
    isAbsolute uri = false := by
  rw [opensPath] at opens
  cases chars : uri.toList with
  | nil => simp [chars] at opens
  | cons first rest =>
      have first_ne : first ≠ 'h' := by
        rintro rfl
        simp [chars, isAuthorityEnd] at opens
      simp [isAbsolute, chars, List.isPrefixOf, first_ne.symm]

/-- Whatever a client is told to dispatch, and wherever a WebSocket is opened, the URIs that are
made of it name the host and port that were asked for if the URI that was given begins a path, a
query or a fragment, and do not if it begins otherwise.  Nothing is said of a request that goes
straight to its origin with an absolute URI. -/
theorem dispatched_names_origin :
    (∀ (client : Client) (method host : String) (port : UInt16) (secure : Option Bool)
      (uri : String) (headers : Option Headers) (request : Request),
      Unbroken host →
      client.dispatch method host port secure uri headers = .ok request →
      (opensPath uri = true → NamesOrigin client request) ∧
        (opensPath uri = false →
          isAbsolute uri = false ∨ client.tunnelFor? request.target.secure ≠ none →
          ¬NamesOrigin client request)) ∧
    (∀ (stream after : UpgradeStream Unit) (client : Client) (destination : Destination),
      stream.subscribe client = (after, .started destination) →
      Unbroken destination.host →
      (schemeAndAuthority? (destination.url stream.options.uri) =
          some (webSocketScheme destination.secure,
            authorityHost destination.host ++ ":" ++ toString destination.port) ↔
        opensPath stream.options.uri = true)) := by
  constructor
  · intro client method host port secure uri headers request unbroken dispatched
    obtain ⟨_, named, _, rfl⟩ := Client.dispatch_ok_iff.mp dispatched
    have names_iff (tells : isAbsolute uri = false ∨
        client.tunnelFor? (secure.getD client.config.secure) ≠ none) :=
      routed_namesOrigin_iff method port headers (unbroken_bareHost unbroken) named tells
    constructor
    · intro opens
      exact (names_iff (.inl (relative_of_opensPath opens))).mpr opens
    · intro opens_not tells names
      rw [(client.routed_common _ _ _ _ _ _).2.2.2.1] at tells
      exact Bool.noConfusion (opens_not.symm.trans ((names_iff tells).mp names))
  · intro stream after client destination started unbroken
    exact url_names_iff unbroken (named_of_started started).1

/-- An IPv6 literal is named to the proxy and in the URL of a WebSocket whatever follows the slash,
and not without a slash. -/
theorem proxied_literal_names_origin :
    let client : Client := { config := { proxy := some { host := "proxy", port := 3128 } } }
    let stream : UpgradeStream Unit :=
      { options := { uri := "/@evil:80", host := some "[::1]", port := some 8080 } }
    Unbroken "[::1]" ∧
      (∃ request, client.dispatch "GET" "[::1]" 8080 none "/@evil:80" none = .ok request ∧
        request.target.hostHeader = "[::1]:8080" ∧ NamesOrigin client request) ∧
      (∃ request, client.dispatch "GET" "[::1]" 8080 none "@evil:80" none = .ok request ∧
        ¬NamesOrigin client request) ∧
      ∃ after destination, stream.subscribe client = (after, .started destination) ∧
        schemeAndAuthority? (destination.url "/@evil:80") = some ("ws", "[::1]:8080") := by
  intro client stream
  have unbroken : Unbroken "[::1]" := by simp [Unbroken, isAuthorityEnd]
  have dispatched (uri : String) (named : uri.isEmpty = false) :
      client.dispatch "GET" "[::1]" 8080 none uri none =
        .ok (client.routed "GET" "::1" 8080 false uri none) :=
    Client.dispatch_ok_iff.mpr ⟨by decide, named, rfl, rfl⟩
  have subscribed : stream.subscribe client =
      ({ stream with subscribed := true }, .started ⟨"::1", 8080, false⟩) := by
    simp [UpgradeStream.subscribe, UpgradeStream.checkArguments, Options.destination, bareHost,
      stream, client]
  refine ⟨unbroken, ⟨_, dispatched "/@evil:80" (by decide), by rfl, ?_⟩,
    ⟨_, dispatched "@evil:80" (by decide), ?_⟩, ⟨_, _, subscribed, ?_⟩⟩
  · exact (dispatched_names_origin.1 client "GET" "[::1]" 8080 none "/@evil:80" none _ unbroken
      (dispatched "/@evil:80" (by decide))).1 (by decide)
  · exact (dispatched_names_origin.1 client "GET" "[::1]" 8080 none "@evil:80" none _ unbroken
      (dispatched "@evil:80" (by decide))).2 (by decide) (.inl (by decide))
  · exact (dispatched_names_origin.2 stream _ client ⟨"::1", 8080, false⟩ subscribed
      (by simp [Unbroken, isAuthorityEnd])).mpr (by decide)

/-- A URI that begins with an at-sign names another host to the proxy than the `Host` header. -/
theorem at_sign_names_another_host :
    let client : Client := { config := { proxy := some { host := "proxy", port := 3128 } } }
    ∃ request, client.dispatch "GET" "h" 80 none "@evil/x" none = .ok request ∧
      request.target.hostHeader = "h" ∧
      schemeAndAuthority? request.absoluteUri = some ("http", "h@evil") ∧
      schemeAndAuthority? request.target.uri = some ("http", "h@evil") ∧
      ¬NamesOrigin client request := by
  intro client
  have dispatched : client.dispatch "GET" "h" 80 none "@evil/x" none =
      .ok (client.routed "GET" "h" 80 false "@evil/x" none) := by rfl
  refine ⟨_, dispatched, by rfl, by decide, by decide, ?_⟩
  rintro ⟨absolute, _⟩
  revert absolute
  decide

end Courier
