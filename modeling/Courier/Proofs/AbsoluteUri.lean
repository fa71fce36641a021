import Courier.Proofs.Redirect
import Courier.Proofs.Url.Written

/-!
# Absolute URIs dispatched again

A request that was made for a URL tells an absolute URI that stands for the same request.  As a URL
it is the one that the request was made for, but for the user information and the fragment.
-/

namespace Courier

namespace Url

/-! ## URLs in writing -/

/-- Where no character is blank all take part in parsing. -/
theorem significant_of_visible {text : String}
    (visible : ∀ char ∈ text.toList, isOuterBlank char = false) :
    significant text = text.toList := by
  have kept {chars : List Char} (visible : ∀ char ∈ chars, isOuterBlank char = false) :
      chars.dropWhile isOuterBlank = chars := by
    cases chars with
    | nil => rfl
    | cons char rest => exact List.dropWhile_cons_of_neg (by simp [visible char])
  have line_kept : text.toList.filter (fun char => char ∉ ['\t', '\n', '\r']) = text.toList := by
    refine List.filter_eq_self.mpr fun char char_mem => decide_eq_true fun broken => ?_
    have blank : ∀ mark ∈ ['\t', '\n', '\r'], isOuterBlank mark = true := by
      simp [isOuterBlank]
    exact Bool.noConfusion ((visible char char_mem).symm.trans (blank char broken))
  rw [significant, kept visible, kept (by simpa using visible), List.reverse_reverse]
  exact line_kept

/-- A URL in writing, without user information and fragment. -/
def written (url : Url) (host : Host) : List Char :=
  url.scheme.toList ++ "://".toList ++ (host.written ++ writtenPort url.port ++ url.target.toList)

theorem splitScheme?_written {scheme : String} (followed : Followed scheme) (rest : List Char) :
    splitScheme? (scheme.toList ++ "://".toList ++ rest) = some (scheme, '/' :: '/' :: rest) := by
  rcases followed with rfl | rfl
  · rfl
  · rfl

section Written

variable {url : Url} {host : Host}

theorem Canonical.visible_target (canonical : url.Canonical) :
    ∀ char ∈ url.target.toList, isOuterBlank char = false := by
  obtain ⟨segments, path_eq, _, path⟩ := canonical.path
  rw [toList_target path_eq]
  refine List.forall_mem_append.mpr ⟨?_, ?_⟩
  · simp only [writtenPath, List.mem_flatMap, List.mem_cons]
    rintro char ⟨segment, segment_mem, rfl | char_mem⟩
    · decide
    · exact (path segment segment_mem).settled.visible pathSet_blank char char_mem
  · cases query_eq : url.query with
    | none => simp [writtenQuery]
    | some query =>
        refine List.forall_mem_cons.mpr ⟨by decide, ?_⟩
        exact (canonical.query query query_eq).visible querySet_blank

theorem Canonical.visible_written (canonical : url.Canonical) (host_canonical : host.Canonical)
    (followed : Followed url.scheme) : ∀ char ∈ url.written host, isOuterBlank char = false := by
  have in_scheme : ∀ char ∈ url.scheme.toList, isOuterBlank char = false := by
    rcases followed with scheme | scheme <;> simp [scheme, isOuterBlank]
  have in_mark : ∀ char ∈ "://".toList, isOuterBlank char = false := by simp [isOuterBlank]
  have in_authority := inAuthority_hostAndPort url.port host_canonical
  refine List.forall_mem_append.mpr ⟨List.forall_mem_append.mpr ⟨in_scheme, in_mark⟩,
    List.forall_mem_append.mpr ⟨fun char char_mem => (in_authority char char_mem).visible, ?_⟩⟩
  exact canonical.visible_target

/-- No slash of an authority is taken for one before it. -/
theorem dropWhile_authority {port : Option UInt16} (canonical : host.Canonical)
    (named : host.text.isEmpty = false) (rest : List Char) :
    (host.written ++ writtenPort port ++ rest).dropWhile (isSlash .network) =
      host.written ++ writtenPort port ++ rest := by
  obtain ⟨first, more, host_eq⟩ := List.exists_cons_of_ne_nil
    (List.isEmpty_eq_false_iff.mp (written_named named))
  have goes_on := (inAuthority_written canonical first (by simp [host_eq])).goes_on
  simp only [endsAuthority, Bool.or_eq_false_iff] at goes_on
  rw [host_eq]
  exact List.dropWhile_cons_of_neg (by simp [goes_on.1.1])

/-- A canonical URL is read as it is written. -/
theorem Canonical.parse_written (canonical : url.Canonical) (followed : Followed url.scheme)
    (host_eq : url.host = some host) (stable : host.Stable) {text : String}
    (text_eq : text.toList = url.written host) :
    parse text = .ok { url with username := "", password := "", fragment := none } := by
  have network : schemeKind url.scheme = .network := followed.network
  obtain ⟨_, host_found, host_canonical⟩ := canonical.host
  cases host_eq.symm.trans host_found
  obtain ⟨segments, path_eq, some_segment, path⟩ := canonical.path
  have visible := canonical.visible_written host_canonical followed
  rw [← text_eq] at visible
  have authority_read := readAuthority_written network host_canonical stable canonical.port
    some_segment path canonical.query
  rw [← toList_target path_eq] at authority_read
  have bare := bare_of_parseHost (parseHost_written host_canonical stable)
  have opened : ('/' :: '/' :: (host.written ++ writtenPort url.port ++
      url.target.toList)).dropWhile (isSlash .network) =
        host.written ++ writtenPort url.port ++ url.target.toList :=
    dropWhile_authority host_canonical bare.named url.target.toList
  rw [parse, significant_of_visible visible, text_eq, written, splitScheme?_written followed]
  dsimp only
  rw [readAfterScheme.eq_def, network]
  dsimp only
  rw [drop_length_takeWhile, opened, authority_read, host_eq, path_eq]

end Written

end Url

/-! ## Requests -/

/-- An open client makes a request for every URL that is followed. -/
theorem Client.accepts_followed {text : String} {url : Url} (client : Client)
    (is_open : client.closed = false) (method : String) (parsed : Url.parse text = .ok url)
    (followed : Followed url.scheme) :
    ∃ request, client.dispatchAbsolute method text = .ok request := by
  have located := Url.parse_sound text url parsed followed.network
  obtain ⟨host, host_eq, bare⟩ := located.host
  obtain ⟨secure, _, security, _⟩ := followed.agree
  rw [dispatchAbsolute_of_parse parsed security (Url.hostText?_of_host host_eq),
    dispatch_of_bare bare located.target_named, if_neg (by simp [is_open])]
  exact ⟨_, rfl⟩

theorem isAbsolute_of_slash {uri : String} (slash : uri.toList.head? = some '/') :
    isAbsolute uri = false := by
  obtain ⟨rest, uri_eq⟩ : ∃ rest, uri.toList = '/' :: rest := List.head?_eq_some_iff.mp slash
  rw [isAbsolute, uri_eq]
  rfl

/-- The absolute URI of a request that was made for a URL is dispatched as that request, and it
stands for that URL without its user information and fragment.  A domain name in it that is not
plain must be its own ASCII form. -/
theorem absolute_uri_dispatched_again (client : Client) (method text : String) (url : Url)
    (request : Request) (parsed : Url.parse text = .ok url) (followed : Followed url.scheme)
    (stable : ∀ host ∈ url.host, host.Stable)
    (accepted : client.dispatchAbsolute method text = .ok request) :
    client.dispatchAbsolute method request.absoluteUri = .ok request ∧
      Url.parse request.absoluteUri =
        .ok { url with username := "", password := "", fragment := none } := by
  have canonical := Url.parse_canonical text url parsed followed.network
  have located := Url.parse_sound text url parsed followed.network
  obtain ⟨host, host_eq, bare⟩ := located.host
  obtain ⟨secure, scheme_eq, _, security, implied⟩ := followed.told
  have host_text := Url.hostText?_of_host host_eq
  have made := accepted
  rw [Client.dispatchAbsolute_of_parse parsed security host_text] at made
  have named : url.port ≠ some (defaultPort secure) :=
    fun named => canonical.port (defaultPort secure) named implied
  have told : request.absoluteUri = schemeName secure ++ "://" ++
      authority host.text (url.port.getD (defaultPort secure)) (defaultPort secure) ++
        url.target := by
    obtain ⟨_, _, _, rfl⟩ := Client.dispatch_ok_iff.mp made
    rw [bareHost_of_bare bare]
    exact Client.absoluteUri_routed method none (.inl (isAbsolute_of_slash located.target_head))
  have written : request.absoluteUri.toList = url.written host := by
    rw [told, scheme_eq, String.toList_append, String.toList_append, String.toList_append,
      Url.toList_authority named, List.append_assoc (_ ++ _)]
    rfl
  have parsed_again := canonical.parse_written followed host_eq (stable host host_eq) written
  refine ⟨?_, parsed_again⟩
  rw [Client.dispatchAbsolute_of_parse parsed_again security host_text]
  exact made

/-- Behind a proxy an address that stands for another one, and straight to its origin a name with
the port that the scheme implies. -/
theorem absolute_uri_of_mapped_address_and_name :
    let proxied : Client := { config := { proxy := some { host := "proxy", port := 3128 } } }
    let direct : Client := { config := {} }
    let mapped : Url :=
      { scheme := "http", host := some (.ipv6 [0, 0, 0, 0, 0, 0xffff, 0x102, 0x304])
        port := some 8080, path := .segments ["a%20b"], query := some "" }
    let named : Url :=
      { scheme := "https", host := some (.domain "h.example"), path := .segments [""] }
    (∃ request, proxied.dispatchAbsolute "GET" "http://u:p@[::FFFF:1.2.3.4]:8080/a b?#f" =
        .ok request ∧
      proxied.dispatchAbsolute "GET" request.absoluteUri = .ok request ∧
      Url.parse request.absoluteUri = .ok mapped) ∧
    ∃ request, direct.dispatchAbsolute "GET" "HTTPS:H.example:443" = .ok request ∧
      direct.dispatchAbsolute "GET" request.absoluteUri = .ok request ∧
      Url.parse request.absoluteUri = .ok named := by
  intro proxied direct mapped named
  constructor
  · have parsed : Url.parse "http://u:p@[::FFFF:1.2.3.4]:8080/a b?#f" =
        .ok { mapped with username := "u", password := "p", fragment := some "f" } :=
      toOption_eq_some_iff.mp (by decide +kernel)
    obtain ⟨request, accepted⟩ := proxied.accepts_followed rfl "GET" parsed (.inl rfl)
    refine ⟨request, accepted, ?_⟩
    refine absolute_uri_dispatched_again proxied "GET" _ _ request parsed (.inl rfl) ?_ accepted
    rintro host ⟨⟩ name ⟨⟩
  · have parsed : Url.parse "HTTPS:H.example:443" = .ok named :=
      toOption_eq_some_iff.mp (by decide +kernel)
    obtain ⟨request, accepted⟩ := direct.accepts_followed rfl "GET" parsed (.inr rfl)
    refine ⟨request, accepted, ?_⟩
    refine absolute_uri_dispatched_again direct "GET" _ _ request parsed (.inr rfl) ?_ accepted
    rintro host ⟨⟩ name ⟨⟩ unplain
    exact absurd unplain (by decide)

end Courier
