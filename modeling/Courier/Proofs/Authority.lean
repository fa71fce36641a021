import Courier.Proofs.Origin
import Courier.Proofs.Text.Digits
import Courier.Proofs.Url.Host
import Mathlib.Data.List.TakeWhile

/-!
# Authorities read back

An authority holds its host in a form from which it is read back, whatever port stands behind it:
brackets tell an IPv6 literal, or any other host with a colon, from a host that a port follows.  So
no two origins of one scheme share an authority, and requests that name their origins in the same
way have the same one.
-/

namespace Courier

open Http (Headers)

variable {host other : String} {port port' standard : UInt16}

/-! ## Hosts -/

theorem authorityHost_of_colon (colon : ':' ∈ host.toList) (unbracketed : Unbracketed host) :
    authorityHost host = "[" ++ host ++ "]" := by
  have opens_not : host.toList.head? ≠ some '[' := fun opens =>
    (unbracketed '[' (List.mem_of_head? opens)).1 rfl
  rw [authorityHost]
  exact if_pos (by simp [colon, opens_not])

/-- A host that opens with a bracket is written as it is. -/
theorem authorityHost_of_opened (opened : host.toList.head? = some '[') :
    authorityHost host = host := by
  rw [authorityHost]
  exact if_neg (by simp [opened])

/-- A host without brackets is written in brackets if it holds a colon, and as it is otherwise. -/
theorem authorityHost_cases (unbracketed : Unbracketed host) :
    authorityHost host = "[" ++ host ++ "]" ∨
      authorityHost host = host ∧ ∀ char ∈ host.toList, char ≠ ':' := by
  by_cases colon : ':' ∈ host.toList
  · exact .inl (authorityHost_of_colon colon unbracketed)
  · have no_colon : ∀ char ∈ host.toList, char ≠ ':' := fun _ char_mem =>
      ne_of_mem_of_not_mem char_mem colon
    exact .inr ⟨authorityHost_of_no_colon no_colon, no_colon⟩

theorem bareHost_authorityHost (unbracketed : Unbracketed host) :
    bareHost (authorityHost host) = host := by
  rcases authorityHost_cases unbracketed with bracketed | ⟨unchanged, _⟩
  · rw [bracketed, bareHost_of_brackets]
  · rw [unchanged, bareHost_of_unbracketed unbracketed]

theorem authorityHost_idem (host : String) :
    authorityHost (authorityHost host) = authorityHost host := by
  rw [authorityHost.eq_def host]
  dsimp only
  split
  · exact authorityHost_of_opened (by simp [String.toList_append])
  · rename_i unchanged
    exact if_neg unchanged

/-! ## Hosts and ports -/

/-- The host that an authority begins with: what stands in brackets, or before a colon. -/
def leadingHost : List Char → List Char
  | '[' :: rest => rest.takeWhile (· != ']')
  | chars => chars.takeWhile (· != ':')

/-- A port as it follows a host: not at all if it is the default one. -/
def portText (port standard : UInt16) : List Char :=
  if port == standard then [] else ':' :: Nat.toDigits 10 port.toNat

theorem toList_authority_eq (host : String) (port standard : UInt16) :
    (authority host port standard).toList =
      (authorityHost host).toList ++ portText port standard := by
  have digits : (toString port).toList = Nat.toDigits 10 port.toNat := String.toList_ofList
  rw [authority, portText]
  split
  · exact (List.append_nil _).symm
  · simp [String.toList_append, digits]

theorem head_portText : ∀ char ∈ (portText port standard).head?, char = ':' := by
  rw [portText]
  split <;> simp

/-- A host is read back from its form in an authority, if what follows could be a port. -/
theorem leadingHost_append (unbracketed : Unbracketed host) {rest : List Char}
    (opens_port : ∀ char ∈ rest.head?, char = ':') :
    leadingHost ((authorityHost host).toList ++ rest) = host.toList := by
  rcases authorityHost_cases unbracketed with bracketed | ⟨unchanged, no_colon⟩
  · have inside : ∀ char ∈ host.toList, (char != ']') = true := by
      simpa using fun char char_mem => (unbracketed char char_mem).2
    have closed : (host.toList ++ ']' :: rest).takeWhile (· != ']') = host.toList := by
      rw [List.takeWhile_append_of_pos inside]
      simp
    rw [bracketed]
    simpa [String.toList_append, leadingHost] using closed
  · have opens_not : ∀ more, host.toList ++ rest ≠ '[' :: more := by
      intro more opened
      rcases List.append_eq_cons_iff.mp opened with ⟨_, rest_eq⟩ | ⟨others, host_eq, _⟩
      · exact absurd (opens_port '[' (by simp [rest_eq])) (by decide)
      · exact (unbracketed '[' (by simp [host_eq])).1 rfl
    rw [unchanged, leadingHost.eq_2 _ opens_not,
      takeWhile_append_of_head (by simpa using opens_port)]
    exact List.takeWhile_eq_self_iff.mpr (by simpa using no_colon)

theorem portText_inj (same : portText port standard = portText port' standard) : port = port' := by
  rw [portText, portText] at same
  split at same <;> split at same
  · simp_all
  · cases same
  · cases same
  · have read := congrArg (Ascii.ofDigits 10) (List.cons.inj same).2
    rw [Ascii.ofDigits_toDigits (by decide) (by decide),
      Ascii.ofDigits_toDigits (by decide) (by decide)] at read
    exact UInt16.toNat_inj.mp read

/-- Where the default port is the same, an authority stands for one host and one port. -/
theorem authority_inj (unbracketed : Unbracketed host) (other_unbracketed : Unbracketed other)
    (same : authority host port standard = authority other port' standard) :
    host = other ∧ port = port' := by
  have chars_eq := congrArg String.toList same
  rw [toList_authority_eq, toList_authority_eq] at chars_eq
  have host_eq : host = other := by
    have read := congrArg leadingHost chars_eq
    rw [leadingHost_append unbracketed head_portText,
      leadingHost_append other_unbracketed head_portText] at read
    exact String.toList_inj.mp read
  rw [host_eq] at chars_eq
  exact ⟨host_eq, portText_inj (List.append_cancel_left chars_eq)⟩

/-! ## Requests -/

/-- Two requests lead to one origin. -/
structure SameOrigin (left right : Request) : Prop where
  host_eq : left.target.host = right.target.host
  port_eq : left.target.port = right.target.port
  secure_eq : left.target.secure = right.target.secure

/-- A request that a client has made of a call with a URI. -/
def DispatchedWith (uri : String) (request : Request) : Prop :=
  ∃ (client : Client) (method host : String) (port : UInt16) (secure : Option Bool)
    (headers : Option Headers), client.dispatch method host port secure uri headers = .ok request

variable {uri : String} {request left right : Request}

theorem DispatchedWith.hostHeader_eq (dispatched : DispatchedWith uri request) :
    request.target.hostHeader =
      authority request.target.host request.target.port (defaultPort request.target.secure) := by
  obtain ⟨client, method, host, port, secure, headers, made⟩ := dispatched
  obtain ⟨_, _, _, rfl⟩ := Client.dispatch_ok_iff.mp made
  obtain ⟨_, host_eq, port_eq, secure_eq, header_eq, _⟩ := client.routed_common method
    (bareHost host) port (secure.getD client.config.secure) uri headers
  rw [header_eq, host_eq, port_eq, secure_eq]

theorem DispatchedWith.absoluteUri_eq (dispatched : DispatchedWith uri request)
    (relative : isAbsolute uri = false) :
    request.absoluteUri =
      schemeName request.target.secure ++ "://" ++ request.target.hostHeader ++ uri := by
  obtain ⟨client, method, host, port, secure, headers, made⟩ := dispatched
  obtain ⟨_, _, _, rfl⟩ := Client.dispatch_ok_iff.mp made
  obtain ⟨_, _, _, secure_eq, header_eq, _⟩ := client.routed_common method
    (bareHost host) port (secure.getD client.config.secure) uri headers
  rw [Client.absoluteUri_routed method headers (.inl relative), header_eq, secure_eq]

/-- Requests of the same security whose `Host` headers agree lead to one origin. -/
theorem DispatchedWith.sameOrigin {uri' : String} (dispatched : DispatchedWith uri left)
    (dispatched' : DispatchedWith uri' right) (unbracketed : Unbracketed left.target.host)
    (unbracketed' : Unbracketed right.target.host)
    (secure_eq : left.target.secure = right.target.secure)
    (header_eq : left.target.hostHeader = right.target.hostHeader) : SameOrigin left right := by
  rw [dispatched.hostHeader_eq, dispatched'.hostHeader_eq, secure_eq] at header_eq
  obtain ⟨host_eq, port_eq⟩ := authority_inj unbracketed unbracketed' header_eq
  exact ⟨host_eq, port_eq, secure_eq⟩

theorem schemeName_inj {secure secure' : Bool} (same : schemeName secure = schemeName secure') :
    secure = secure' := by
  revert same
  cases secure <;> cases secure' <;> decide

theorem eq_of_schemes {scheme scheme' authority authority' : String}
    (scheme_plain : ∀ char ∈ scheme.toList, char ≠ ':')
    (scheme_plain' : ∀ char ∈ scheme'.toList, char ≠ ':')
    (same : scheme ++ "://" ++ authority = scheme' ++ "://" ++ authority') :
    scheme = scheme' ∧ authority = authority' := by
  have chars_eq : scheme.toList ++ ':' :: '/' :: '/' :: authority.toList =
      scheme'.toList ++ ':' :: '/' :: '/' :: authority'.toList := by
    simpa [String.toList_append] using congrArg String.toList same
  obtain ⟨scheme_eq, rest_eq⟩ := eq_of_first_occurrence
    (fun colon_mem => scheme_plain ':' colon_mem rfl)
    (fun colon_mem => scheme_plain' ':' colon_mem rfl) chars_eq
  simp only [List.cons.injEq, true_and] at rest_eq
  exact ⟨String.toList_inj.mp scheme_eq, String.toList_inj.mp rest_eq⟩

/-- A request whose URI opens a path names its origin between the scheme and that path. -/
theorem DispatchedWith.names_origin (dispatched : DispatchedWith uri request)
    (opens : opensPath uri = true) (unbroken : Unbroken request.target.host) :
    schemeAndAuthority? request.absoluteUri =
      some (schemeName request.target.secure, request.target.hostHeader) := by
  have header_unbroken : Unbroken request.target.hostHeader := by
    rw [dispatched.hostHeader_eq]
    exact unbroken_authority unbroken _ _
  have named : uri.isEmpty = false := by
    refine Bool.eq_false_iff.mpr fun empty => ?_
    rw [String.isEmpty_iff.mp empty] at opens
    exact absurd opens (by decide)
  rw [dispatched.absoluteUri_eq (relative_of_opensPath opens)]
  exact (names_authority_iff (schemeName_plain _) header_unbroken named).mpr opens

/-- URIs of two calls that can be told from the authorities before them: they are the same, or both
begin where an authority ends, which the hosts themselves do not do. -/
inductive ToldApart (uri uri' : String) (left right : Request) : Prop
  | same (uri_eq : uri = uri') (relative : isAbsolute uri = false)
  | paths (opens : opensPath uri = true) (opens' : opensPath uri' = true)
      (unbroken : Unbroken left.target.host) (unbroken' : Unbroken right.target.host)

theorem scheme_and_header_eq {uri' : String} (dispatched : DispatchedWith uri left)
    (dispatched' : DispatchedWith uri' right) (told : ToldApart uri uri' left right)
    (same : left.absoluteUri = right.absoluteUri) :
    schemeName left.target.secure = schemeName right.target.secure ∧
      left.target.hostHeader = right.target.hostHeader := by
  cases told with
  | same uri_eq relative =>
      subst uri_eq
      rw [dispatched.absoluteUri_eq relative, dispatched'.absoluteUri_eq relative] at same
      exact eq_of_schemes (schemeName_plain _) (schemeName_plain _)
        ((String.append_left_inj uri).mp same)
  | paths opens opens' unbroken unbroken' =>
      have named := dispatched.names_origin opens unbroken
      rw [same, dispatched'.names_origin opens' unbroken', Option.some.injEq,
        Prod.mk.injEq] at named
      exact ⟨named.1.symm, named.2.symm⟩

/-- A host without brackets comes back out of an authority, brackets that stand there are kept, and
where the default port is the same an authority stands for one host and one port.  So do a `Host`
header, for requests of the same security, and an absolute URI. -/
theorem authorities_name_one_origin :
    (∀ host, Unbracketed host → bareHost (authorityHost host) = host) ∧
    (∀ host, authorityHost (authorityHost host) = authorityHost host) ∧
    (∀ (host other : String) (port port' standard : UInt16), Unbracketed host →
      Unbracketed other → authority host port standard = authority other port' standard →
      host = other ∧ port = port') ∧
    ∀ (uri uri' : String) (left right : Request), DispatchedWith uri left →
      DispatchedWith uri' right → Unbracketed left.target.host →
      Unbracketed right.target.host →
      (left.target.secure = right.target.secure →
        left.target.hostHeader = right.target.hostHeader → SameOrigin left right) ∧
      (ToldApart uri uri' left right → left.absoluteUri = right.absoluteUri →
        SameOrigin left right) := by
  refine ⟨fun _ => bareHost_authorityHost, authorityHost_idem,
    fun _ _ _ _ _ => authority_inj, ?_⟩
  intro uri uri' left right dispatched dispatched' unbracketed unbracketed'
  refine ⟨dispatched.sameOrigin dispatched' unbracketed unbracketed', ?_⟩
  intro told same
  obtain ⟨scheme_eq, header_eq⟩ := scheme_and_header_eq dispatched dispatched' told same
  exact dispatched.sameOrigin dispatched' unbracketed unbracketed' (schemeName_inj scheme_eq)
    header_eq

/-- The same IPv6 literal on both routes, and a host that looks like a name with a port. -/
theorem literal_and_lookalike_told_apart :
    let direct : Client := { config := {} }
    let proxied : Client := { config := { proxy := some { host := "proxy", port := 3128 } } }
    let left := direct.routed "GET" "::1" 8080 false "/a" none
    let right := proxied.routed "POST" "::1" 8080 false "/a" none
    (Unbracketed "h:80" ∧ Unbracketed "h" ∧
      authority "h:80" 81 81 = "[h:80]" ∧ authority "h" 80 81 = "h:80" ∧
      bareHost "[h:80]" = "h:80" ∧ authority "h:80" 81 81 ≠ authority "h" 80 81) ∧
    (DispatchedWith "/a" left ∧ DispatchedWith "/a" right ∧ Unbracketed "::1" ∧
      left.target.hostHeader = "[::1]:8080" ∧ right.target.hostHeader = "[::1]:8080" ∧
      left.absoluteUri = right.absoluteUri ∧ SameOrigin left right) := by
  intro direct proxied left right
  obtain ⟨bare, _, distinct, requests⟩ := authorities_name_one_origin
  have lookalike : Unbracketed "h:80" := by simp [Unbracketed]
  have name : Unbracketed "h" := by simp [Unbracketed]
  have literal : Unbracketed "::1" := by simp [Unbracketed]
  have dispatched : DispatchedWith "/a" left :=
    ⟨direct, "GET", "[::1]", 8080, none, none, by rfl⟩
  have dispatched' : DispatchedWith "/a" right :=
    ⟨proxied, "POST", "::1", 8080, none, none, by rfl⟩
  have told : ToldApart "/a" "/a" left right := .same rfl (by decide)
  have same : left.absoluteUri = right.absoluteUri := by decide
  refine ⟨⟨lookalike, name, by decide, by decide, bare "h:80" lookalike, ?_⟩, dispatched,
    dispatched', literal, by decide, by decide, same, ?_⟩
  · intro shared
    exact absurd (distinct "h:80" "h" 81 80 81 lookalike name shared).1 (by decide)
  · exact (requests "/a" "/a" left right dispatched dispatched' literal literal).2 told same

end Courier
