import Courier.Proofs.Http.Head
import Courier.Proofs.Origin
import Courier.Proofs.Sending.Fresh
import Courier.Proofs.Url.Network
import Courier.Proofs.WebSocket.Handshake

/-!
# Headers of the protocol and of the caller

A request has the one `Host` header that names its target, and the headers of the caller under all
other names.  An upgrade writes each of the five headers that belong to the protocol once, with the
values of the protocol, offers the sub-protocols that it was given, and adds the headers of the
caller under all other names.
-/

namespace Courier

open Http (Headers Legible RequestTarget)
open Http.Outgoing (fieldLine headBytes newline)

namespace WebSocket

/-! ## Lines of a handshake -/

section Attempts

variable {ε α β γ : Type}

/-- What is written of results that are found one by one, told from the values that they are found
for. -/
theorem yields_mapM {find : α → Except ε β} {holds : α → Prop} {write : β → List γ}
    {direct : α → List γ}
    (each : ∀ value, Yields (fun result => holds value ∧ write result = direct value) (find value))
    (values : List α) :
    Yields (fun results => (∀ value ∈ values, holds value) ∧
      results.flatMap write = values.flatMap direct) (values.mapM find) := by
  induction values with
  | nil => exact yields_ok (by simp)
  | cons value rest induction =>
      rw [List.mapM_cons]
      refine (each value).bind ?_
      rintro first ⟨holds_first, first_eq⟩
      refine induction.bind ?_
      rintro others ⟨holds_others, others_eq⟩
      refine yields_ok ⟨List.forall_mem_cons.mpr ⟨holds_first, holds_others⟩, ?_⟩
      rw [List.flatMap_cons, List.flatMap_cons, first_eq, others_eq]

end Attempts

/-- A value that is a text. -/
def Visible (value : Bytes) : Prop := value.all Bytes.isVisible = true

theorem toNat_lt_of_isVisible {byte : UInt8} (visible : Bytes.isVisible byte = true) :
    byte.toNat < 128 := by
  simp only [Bytes.isVisible, Bool.or_eq_true, Bool.and_eq_true, decide_eq_true_eq, beq_iff_eq,
    UInt8.le_iff_toNat_le] at visible
  rcases visible with ⟨_, high⟩ | rfl
  · exact Nat.lt_of_le_of_lt high (by decide)
  · decide

theorem ofString_latin1 {value : Bytes} (visible : Visible value) :
    Bytes.ofString (Bytes.latin1 value) = value := by
  rw [Visible, List.all_eq_true] at visible
  have octet : ∀ byte ∈ value, String.utf8EncodeChar (Char.ofNat byte.toNat) = [byte] := by
    intro byte byte_mem
    have small := toNat_lt_of_isVisible (visible byte byte_mem)
    have code : (Char.ofNat byte.toNat).toNat = byte.toNat := Bytes.code_ofNat (by omega)
    rw [Bytes.utf8EncodeChar_ascii (by omega), code, UInt8.ofNat_toNat]
  rw [Bytes.ofString, Bytes.latin1, String.toList_ofList, List.flatMap_map]
  rw [List.flatMap_congr octet, List.flatMap_singleton']

theorem headerText_yields (value : Bytes) :
    Yields (fun text => Visible value ∧ Bytes.ofString text = value) (headerText value) := by
  rw [headerText]
  split
  · rename_i text found
    rw [Bytes.visible?, Option.ite_none_right_eq_some] at found
    obtain ⟨visible, text_eq⟩ := found
    cases text_eq
    exact yields_ok ⟨visible, ofString_latin1 visible⟩
  · exact yields_error _

/-- Whether a header belongs to the protocol. -/
def isProtocolHeader (name : String) : Bool := protocolHeaders.any (·.1 == name)

/-- The fields that are written of headers: the first value of each name that belongs to the
protocol, then all that stand under other names. -/
def writtenFields (headers : Headers) : List (String × Bytes) :=
  protocolHeaders.map (fun written => (written.2, (headers.get? written.1).getD [])) ++
    headers.entries.filter fun field => !isProtocolHeader field.1

/-- The octets of a line and of the break after it. -/
def lineBytes (line : String) : Bytes := Bytes.ofString line ++ newline

theorem lineBytes_field (name : String) {text : String} {value : Bytes}
    (text_eq : Bytes.ofString text = value) :
    lineBytes (name ++ ": " ++ text) = fieldLine (name, value) := by
  rw [lineBytes, fieldLine, Bytes.ofString_append, Bytes.ofString_append, text_eq]

/-- The line of a header of the protocol. -/
def ownLine (headers : Headers) (written : String × String) : Except ClientError String :=
  match headers.get? written.1 with
  | some value => do return written.2 ++ ": " ++ (← headerText value)
  | none => .error (.webSocket (.protocol .invalidHeader))

theorem ownLine_yields (headers : Headers) (written : String × String) :
    Yields (fun line => Visible ((headers.get? written.1).getD []) ∧
        lineBytes line = fieldLine (written.2, (headers.get? written.1).getD []))
      (ownLine headers written) := by
  rw [ownLine]
  cases headers.get? written.1 with
  | none => exact yields_error _
  | some value =>
      refine (headerText_yields value).bind ?_
      rintro text ⟨visible, text_eq⟩
      exact yields_ok ⟨visible, lineBytes_field written.2 text_eq⟩

theorem handshakeLines_yields (headers : Headers) :
    Yields (fun lines => (∀ field ∈ writtenFields headers, Visible field.2) ∧
      lines.flatMap lineBytes = (writtenFields headers).flatMap fieldLine)
      (handshakeLines headers) := by
  have other (field : String × Bytes) :
      Yields (fun line => Visible field.2 ∧ lineBytes line = fieldLine field)
        (do return field.1 ++ ": " ++ (← headerText field.2)) := by
    refine (headerText_yields _).bind ?_
    rintro text ⟨visible, text_eq⟩
    exact yields_ok ⟨visible, lineBytes_field field.1 text_eq⟩
  rw [handshakeLines]
  refine (yields_mapM (ownLine_yields headers) protocolHeaders).bind ?_
  rintro own_lines ⟨own_visible, own_eq⟩
  refine (yields_mapM other _).bind ?_
  rintro other_lines ⟨other_visible, other_eq⟩
  refine yields_ok ⟨?_, ?_⟩
  · refine List.forall_mem_append.mpr ⟨?_, other_visible⟩
    exact List.forall_mem_map.mpr own_visible
  · rw [List.flatMap_append, own_eq, other_eq, writtenFields, List.flatMap_append,
      List.flatMap_map]
    rfl

/-! ## Values of a handshake -/

/-- The headers that the protocol has for an upgrade, of version 13. -/
def ownHeaders (host key : String) : Headers := .ofList [
  ("host", Bytes.ofString host),
  ("connection", Bytes.ofString "Upgrade"),
  ("upgrade", Bytes.ofString "websocket"),
  ("sec-websocket-version", Bytes.ofString ProtocolVersion.v13.name),
  ("sec-websocket-key", Bytes.ofString key)]

theorem lower_protocolHeaders : ∀ written ∈ protocolHeaders,
    Ascii.lower written.1 = written.1 ∧ Ascii.lower written.2 = written.1 := by decide

theorem ownHeaders_proper (host key : String) : (ownHeaders host key).Proper := by
  have names : ∀ name ∈ ["host", "connection", "upgrade", "sec-websocket-version",
      "sec-websocket-key"], Http.isFieldName (Ascii.lower name) = true := by decide
  intro entry entry_mem
  obtain ⟨field, field_mem, rfl⟩ := List.mem_map.mp entry_mem
  apply names field.1
  simp only [List.mem_cons, List.not_mem_nil, or_false] at field_mem
  rcases field_mem with rfl | rfl | rfl | rfl | rfl <;> simp

theorem entries_ownHeaders (host key : String) : (ownHeaders host key).entries = [
    ("host", Bytes.ofString host),
    ("connection", Bytes.ofString "Upgrade"),
    ("upgrade", Bytes.ofString "websocket"),
    ("sec-websocket-version", Bytes.ofString ProtocolVersion.v13.name),
    ("sec-websocket-key", Bytes.ofString key)] := by
  have own_lower : ∀ name ∈ ["host", "connection", "upgrade", "sec-websocket-version",
      "sec-websocket-key"], Ascii.lower name = name := by decide
  simp only [List.forall_mem_cons] at own_lower
  simp [ownHeaders, Headers.ofList, own_lower]

/-- The protocol has no headers but its own. -/
theorem values_ownHeaders_of_not (host key : String) {name : String}
    (unknown : isProtocolHeader name = false) : (ownHeaders host key).values name = [] := by
  have not_own : ∀ written ∈ protocolHeaders, written.1 ≠ name :=
    fun written written_mem => by simpa using List.any_eq_false.mp unknown written written_mem
  simp only [protocolHeaders, List.forall_mem_cons] at not_own
  simp [Headers.values, entries_ownHeaders, not_own]

/-- The values that an upgrade has under a name before the lines are written. -/
def headerValues (options : Options) (host key name : String) : List Bytes :=
  if name = "sec-websocket-version" then [Bytes.ofString options.version.name]
  else if name = subProtocolHeader ∧ options.subProtocols.isEmpty = false then
    [Bytes.ofString (String.intercalate "," options.subProtocols)]
  else (ownHeaders host key).values name ++ options.headers.values name

variable {options : Options} {name : String}

theorem handshakeHeaders_yields (proper : options.headers.Proper) (host key : String) :
    Yields (fun headers => headers.Proper ∧
        ∀ name, headers.values name = headerValues options host key name)
      (handshakeHeaders options host key) := by
  have version_lower : Ascii.lower "sec-websocket-version" = "sec-websocket-version" := by decide
  have offer_lower : Ascii.lower subProtocolHeader = subProtocolHeader := by decide
  have version_proper : Http.isFieldName (Ascii.lower "sec-websocket-version") = true := by decide
  have offer_proper : Http.isFieldName (Ascii.lower subProtocolHeader) = true := by decide
  have both : Headers.Proper ⟨(ownHeaders host key).entries ++ options.headers.entries⟩ :=
    List.forall_mem_append.mpr ⟨ownHeaders_proper host key, proper⟩
  rw [handshakeHeaders, ← ownHeaders, Headers.foldl_append _ _ proper]
  cases offers : options.subProtocols.isEmpty with
  | true =>
      refine yields_ok ⟨both.insert version_proper _, fun name => ?_⟩
      rw [Headers.values_insert version_lower, Headers.values_append_entries, headerValues, offers]
      simp
  | false =>
      cases text : Http.isHeaderText
          (Bytes.ofString (String.intercalate "," options.subProtocols)) with
      | false => exact yields_error _
      | true =>
          refine yields_ok ⟨(both.insert offer_proper _).insert version_proper _, fun name => ?_⟩
          rw [Headers.values_insert version_lower, Headers.values_insert offer_lower,
            Headers.values_append_entries, headerValues, offers]
          simp

theorem values_protocolHeaders (value : String → Bytes) (name : String) :
    (Headers.ofList (protocolHeaders.map fun written => (written.2, value written.1))).values name =
      if isProtocolHeader name then [value name] else [] := by
  have under_key : (Headers.ofList
      (protocolHeaders.map fun written => (written.2, value written.1))).values name =
        protocolHeaders.filterMap fun written =>
          if written.1 = name then some (value name) else none := by
    rw [Headers.ofList, Headers.values, List.map_map, List.filterMap_map]
    refine List.filterMap_congr fun written written_mem => ?_
    by_cases same : written.1 = name
    · simp [(lower_protocolHeaders written written_mem).2, same]
    · simp [(lower_protocolHeaders written written_mem).2, same]
  rw [under_key]
  by_cases known : name ∈ protocolHeaders.map (·.1)
  · simp only [protocolHeaders, List.map_cons, List.map_nil, List.mem_cons, List.not_mem_nil,
      or_false] at known
    rcases known with rfl | rfl | rfl | rfl | rfl <;> simp [protocolHeaders, isProtocolHeader]
  · have differs : ∀ written ∈ protocolHeaders, written.1 ≠ name :=
      fun written written_mem same => known (List.mem_map.mpr ⟨written, written_mem, same⟩)
    have unknown : isProtocolHeader name = false :=
      List.any_eq_false.mpr fun written written_mem => by simpa using differs written written_mem
    rw [unknown, List.filterMap_eq_nil_iff.mpr]
    · rfl
    · exact fun written written_mem => if_neg (differs written written_mem)

/-- What the written fields say under a name. -/
theorem values_writtenFields {headers : Headers} (proper : headers.Proper) (name : String) :
    (Headers.ofList (writtenFields headers)).values name =
      if isProtocolHeader name then [(headers.get? name).getD []] else headers.values name := by
  have others_proper : Headers.Proper
      ⟨headers.entries.filter fun field => !isProtocolHeader field.1⟩ :=
    fun entry entry_mem => proper entry (List.mem_filter.mp entry_mem).1
  rw [writtenFields, Headers.values_ofList_append, Headers.ofList_of_proper others_proper,
    values_protocolHeaders fun name => (headers.get? name).getD []]
  cases known : isProtocolHeader name with
  | true =>
      rw [headers.values_filter_of_neg name (fun name => !isProtocolHeader name) (by simp [known])]
      rfl
  | false =>
      rw [headers.values_filter_of_pos name (fun name => !isProtocolHeader name) (by simp [known])]
      rfl

/-- The written fields can be told apart. -/
theorem legible_writtenFields {headers : Headers} (proper : headers.Proper)
    (visible : ∀ field ∈ writtenFields headers, Visible field.2) :
    Legible (writtenFields headers) := by
  have own_names : ∀ written ∈ protocolHeaders, written.2 ≠ "" ∧
      (58 : UInt8) ∉ Bytes.ofString written.2 ∧ Http.Scan.cr ∉ Bytes.ofString written.2 := by decide
  have name_legible : ∀ field ∈ writtenFields headers, field.1 ≠ "" ∧
      (58 : UInt8) ∉ Bytes.ofString field.1 ∧ Http.Scan.cr ∉ Bytes.ofString field.1 := by
    refine List.forall_mem_append.mpr ⟨List.forall_mem_map.mpr own_names, ?_⟩
    intro field field_mem
    have proper_name := proper field (List.mem_filter.mp field_mem).1
    have token := Http.isToken_of_isFieldName proper_name
    refine ⟨?_, fun colon => ?_, fun break_mem => ?_⟩
    · rintro empty
      simp [Http.isFieldName, empty] at proper_name
    · exact absurd (token 58 colon) (by decide)
    · exact absurd (token Http.Scan.cr break_mem) (by decide)
  intro field field_mem
  obtain ⟨named, no_colon, name_unbroken⟩ := name_legible field field_mem
  refine ⟨named, no_colon, name_unbroken, fun break_mem => ?_⟩
  have is_visible := List.all_eq_true.mp (visible field field_mem) Http.Scan.cr break_mem
  exact absurd is_visible (by decide)

/-! ## Upgrades -/

/-- What the fields of a written upgrade say: under the names of the protocol its own values, each
once, and under all other names the values of the caller, in order, but for sub-protocols that are
offered apart. -/
structure Says (options : Options) (destination : Destination) (key : String)
    (fields : List (String × Bytes)) : Prop where
  host : ∃ scheme authority,
    schemeAndAuthority? (destination.url options.uri) = some (scheme, authority) ∧
      (Headers.ofList fields).values "host" = [Bytes.ofString (hostOfAuthority authority)]
  connection : (Headers.ofList fields).values "connection" = [Bytes.ofString "Upgrade"]
  upgrade : (Headers.ofList fields).values "upgrade" = [Bytes.ofString "websocket"]
  version : (Headers.ofList fields).values "sec-websocket-version" =
    [Bytes.ofString options.version.name]
  key : (Headers.ofList fields).values "sec-websocket-key" = [Bytes.ofString key]
  offer : (Headers.ofList fields).values subProtocolHeader =
    if options.subProtocols.isEmpty then options.headers.values subProtocolHeader
    else [Bytes.ofString (String.intercalate "," options.subProtocols)]
  others : ∀ name, isProtocolHeader name = false → name ≠ subProtocolHeader →
    (Headers.ofList fields).values name = options.headers.values name

theorem says_writtenFields {destination : Destination} {headers : Headers}
    {scheme authority key : String}
    (proper : headers.Proper)
    (url : schemeAndAuthority? (destination.url options.uri) = some (scheme, authority))
    (values_eq : ∀ name, headers.values name =
      headerValues options (hostOfAuthority authority) key name) :
    Says options destination key (writtenFields headers) := by
  have own (name : String) (known : isProtocolHeader name = true) :
      (Headers.ofList (writtenFields headers)).values name =
        [((headerValues options (hostOfAuthority authority) key name).head?).getD []] := by
    rw [values_writtenFields proper, known, Headers.get?, values_eq]
    rfl
  have other (name : String) (unknown : isProtocolHeader name = false) :
      (Headers.ofList (writtenFields headers)).values name =
        headerValues options (hostOfAuthority authority) key name := by
    rw [values_writtenFields proper, unknown, values_eq]
    rfl
  refine ⟨⟨scheme, authority, url, ?_⟩, ?_, ?_, ?_, ?_, ?_, fun name unknown not_offer => ?_⟩
  · rw [own "host" (by decide)]
    simp [headerValues, subProtocolHeader, Headers.values, entries_ownHeaders]
  · rw [own "connection" (by decide)]
    simp [headerValues, subProtocolHeader, Headers.values, entries_ownHeaders]
  · rw [own "upgrade" (by decide)]
    simp [headerValues, subProtocolHeader, Headers.values, entries_ownHeaders]
  · rw [own "sec-websocket-version" (by decide)]
    simp [headerValues]
  · rw [own "sec-websocket-key" (by decide)]
    simp [headerValues, subProtocolHeader, Headers.values, entries_ownHeaders]
  · rw [other subProtocolHeader (by decide), headerValues, if_neg (by decide),
      values_ownHeaders_of_not _ _ (by decide)]
    cases options.subProtocols.isEmpty <;> rfl
  · have not_version : name ≠ "sec-websocket-version" := by
      rintro rfl
      exact absurd unknown (by decide)
    rw [other name unknown, headerValues, if_neg not_version, if_neg fun offer => not_offer offer.1,
      values_ownHeaders_of_not _ _ unknown]
    rfl

theorem readPath_authority (target : RequestTarget) (chars : List Char) :
    Yields (fun found => found.authority = target.authority)
      (RequestTarget.readPath target chars) := by
  rw [RequestTarget.readPath]
  refine yields_check fun _ => ?_
  split
  · exact yields_check fun _ => yields_ok rfl
  · exact yields_ok rfl

/-- The authority of a request target is the one that stands in its text. -/
theorem parse_authority (secure : Bool) (rest : String) :
    Yields (fun target => schemeAndAuthority? (webSocketScheme secure ++ "://" ++ rest) =
        some (webSocketScheme secure, target.authority))
      (RequestTarget.parse (webSocketScheme secure ++ "://" ++ rest)) := by
  have empty : Unbroken "" := by simp [Unbroken]
  have told := schemeAndAuthority?_append rest (webSocketScheme_plain secure) empty
  rw [String.append_empty, String.empty_append] at told
  have parts : (webSocketScheme secure ++ "://" ++ rest).toList =
      (webSocketScheme secure).toList ++ ':' :: '/' :: '/' :: rest.toList := by
    simp [String.toList_append]
  have split_off : RequestTarget.splitScheme (webSocketScheme secure ++ "://" ++ rest).toList =
      .ok (some (webSocketScheme secure, rest.toList)) := by
    rw [parts]
    cases secure <;>
      simp [webSocketScheme, RequestTarget.splitScheme, RequestTarget.isSchemeChar, pure,
        Except.pure]
  have opening : ∃ next more,
      (webSocketScheme secure ++ "://" ++ rest).toList = 'w' :: next :: more := by
    rw [parts]
    cases secure <;> exact ⟨_, _, rfl⟩
  obtain ⟨next, more, opening⟩ := opening
  rw [told, RequestTarget.parse]
  split
  · exact yields_error _
  · rw [opening] at split_off ⊢
    split
    iterate 4 cases ‹_ :: next :: more = _›
    rw [split_off]
    refine (yields_trivial (RequestTarget.checkAuthority _)).bind fun _ _ => ?_
    refine yields_check fun _ => ?_
    refine (readPath_authority _ _).weaken fun found kept => ?_
    rw [kept, lead]
    have same_end : (fun char : Char => !(char == '/' || char == '?' || char == '#')) =
        fun char => !isAuthorityEnd char := by
      funext char
      rw [Bool.eq_iff_iff]
      simp [isAuthorityEnd, and_assoc]
    rw [same_end]

theorem lineBytes_head (line : String) (fields : List (String × Bytes)) :
    lineBytes line ++ fields.flatMap fieldLine ++ newline = headBytes line ⟨fields⟩ := rfl

theorem handshake_yields {destination : Destination} (proper : options.headers.Proper)
    (key : String) :
    Yields (fun handshake => ∃ target fields,
        RequestTarget.parse (destination.url options.uri) = .ok target ∧
        handshake.bytes = headBytes ("GET " ++ target.pathAndQuery ++ " HTTP/1.1") ⟨fields⟩ ∧
        Legible fields ∧ Says options destination key fields)
      (options.handshake destination key) := by
  have url_parts : destination.url options.uri =
      webSocketScheme destination.secure ++ "://" ++
        (authorityHost destination.host ++ ":" ++ toString destination.port ++ options.uri) := by
    simp only [Destination.url, webSocketScheme, String.append_assoc]
  rw [Options.handshake]
  cases parsed : RequestTarget.parse (destination.url options.uri) with
  | error cause => exact yields_error _
  | ok target =>
      have authority_told := parsed
      rw [url_parts] at authority_told
      have url := parse_authority _ _ target authority_told
      rw [← url_parts] at url
      refine yields_check fun _ => yields_check fun _ => ?_
      refine (handshakeHeaders_yields proper _ key).bind ?_
      rintro headers ⟨headers_proper, values_eq⟩
      refine (yields_trivial (offeredIn headers)).bind fun _ _ => ?_
      refine (handshakeLines_yields headers).bind ?_
      rintro lines ⟨visible, lines_eq⟩
      have legible := legible_writtenFields headers_proper visible
      have said := says_writtenFields headers_proper url values_eq
      refine yields_ok ⟨target, writtenFields headers, rfl, ?_, legible, said⟩
      rw [← lineBytes_head, ← lines_eq]
      rfl

end WebSocket

open WebSocket (Options Destination Says)

/-- Whatever headers a caller has set, a request is written with one `Host` header, which names its
target, and the headers of the caller under all other names; and an upgrade that is written is the
head of fields, the only ones that can be read in it, that say what the protocol has to say under
its own names and what the caller says under all others. -/
theorem protocol_headers_prevail :
    (∀ (request : Request) (written : Http.Outgoing), request.outgoing = .ok written →
      written.headers.values "host" = [Bytes.ofString request.target.hostHeader] ∧
        ∀ name, name ≠ "host" →
          written.headers.values name = (request.headers.getD .empty).values name) ∧
    (∀ (options : Options) (destination : Destination) (key : String)
      (handshake : WebSocket.Handshake), options.headers.Proper →
      options.handshake destination key = .ok handshake →
      ∃ target fields,
        RequestTarget.parse (destination.url options.uri) = .ok target ∧
        handshake.bytes = headBytes ("GET " ++ target.pathAndQuery ++ " HTTP/1.1") ⟨fields⟩ ∧
        Legible fields ∧
        (∀ others, Legible others →
          handshake.bytes = headBytes ("GET " ++ target.pathAndQuery ++ " HTTP/1.1") ⟨others⟩ →
          others = fields) ∧
        Says options destination key fields) := by
  constructor
  · intro request written is_written
    obtain ⟨target, _, _, rfl⟩ := Request.outgoing_ok_iff.mp is_written
    have lower : Ascii.lower "host" = "host" := by decide
    dsimp only
    refine ⟨?_, fun name name_ne => ?_⟩
    · rw [Headers.values_insert lower, if_pos rfl]
    · rw [Headers.values_insert lower, if_neg name_ne]
  · intro options destination key handshake proper made
    obtain ⟨target, fields, parsed, bytes_eq, legible, said⟩ :=
      WebSocket.handshake_yields proper key handshake made
    refine ⟨target, fields, parsed, bytes_eq, legible, ?_, said⟩
    intro others others_legible others_eq
    rw [bytes_eq] at others_eq
    exact Http.fields_of_headBytes others_legible legible others_eq.symm

/-- Headers of the caller that name another host, close the connection or ask for another version
are left out, and those that are repeated are kept. -/
theorem spoofing_headers_displaced :
    let request : Request := {
      method := "GET"
      target := {
        host := "h", port := 80, secure := false, uri := "/"
        connectHost := "h", connectPort := 80, hostHeader := "h" }
      headers := some ⟨[("host", Bytes.ofString "evil"), ("x-mark", Bytes.ofString "1"),
        ("host", Bytes.ofString "other"), ("x-mark", Bytes.ofString "2")]⟩ }
    let options : Options := {
      uri := "/chat"
      version := .v8
      subProtocols := ["plain", "binary"]
      headers := ⟨[("host", Bytes.ofString "evil"), ("x-mark", Bytes.ofString "1"),
        ("connection", Bytes.ofString "close"), ("x-mark", Bytes.ofString "2"),
        ("sec-websocket-protocol", Bytes.ofString "none"),
        ("sec-websocket-version", Bytes.ofString "99")]⟩ }
    let destination : Destination := ⟨"::1", 8080, false⟩
    (∃ written, request.outgoing = .ok written ∧
      written.headers.values "host" = [Bytes.ofString "h"] ∧
      written.headers.values "x-mark" = [Bytes.ofString "1", Bytes.ofString "2"]) ∧
    options.headers.Proper ∧
    ∃ handshake line fields, options.handshake destination "a2V5" = .ok handshake ∧
      handshake.bytes = headBytes line ⟨fields⟩ ∧ Says options destination "a2V5" fields := by
  intro request options destination
  have proper : options.headers.Proper := by decide
  have written : ∃ written, request.outgoing = .ok written := by
    have parsed : ∃ target, RequestTarget.parse "/" = .ok target := ⟨_, by rfl⟩
    obtain ⟨target, parsed⟩ := parsed
    exact ⟨_, Request.outgoing_ok_iff.mpr ⟨target, parsed, by decide, rfl⟩⟩
  have made : ∃ handshake, options.handshake destination "a2V5" = .ok handshake := by
    have possible : (options.handshake destination "a2V5").isOk = true := by decide +kernel
    cases made : options.handshake destination "a2V5" with
    | ok handshake => exact ⟨handshake, rfl⟩
    | error error =>
        rw [made] at possible
        cases possible
  obtain ⟨written, is_written⟩ := written
  obtain ⟨handshake, is_made⟩ := made
  obtain ⟨host, others⟩ := protocol_headers_prevail.1 request written is_written
  obtain ⟨target, fields, _, bytes_eq, _, _, said⟩ :=
    protocol_headers_prevail.2 options destination "a2V5" handshake proper is_made
  refine ⟨⟨written, is_written, host, ?_⟩, proper, handshake, _, fields, is_made, bytes_eq, said⟩
  rw [others "x-mark" (by decide)]
  rfl

end Courier
