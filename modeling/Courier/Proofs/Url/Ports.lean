import Courier.Proofs.Dispatch
import Courier.Proofs.Url.Network
import Mathlib.Data.List.DropRight

/-!
# Ports that URLs name

The port that the text of a URL names is the port of the request for it, but for two that are lost:
a parsed URL does not tell the port that its scheme implies, and the port that stands in for it is
that of the security of the scheme.
-/

namespace Courier

namespace Url

/-! ## Ports in writing -/

/-- The authority of a URL as it is written after the colon of the scheme. -/
def writtenAuthority (kind : SchemeKind) (chars : List Char) : List Char :=
  let opened := match kind with
    | .network => chars.dropWhile (isSlash .network)
    | _ => chars.drop 2
  opened.takeWhile fun char => !endsAuthority kind char

/-- What stands after the user information of an authority, if there is any. -/
def afterUserInfo (authority : List Char) : List Char := authority.rtakeWhile (· != '@')

/-- What stands after a host: all from the first colon outside brackets. -/
def afterHost (inBrackets : Bool) : List Char → List Char
  | [] => []
  | char :: rest =>
    if char == ':' && !inBrackets then char :: rest
    else afterHost (char == '[' || (inBrackets && char != ']')) rest

/-- The number that the digits after a colon stand for, if there are any. -/
def portNumber? (chars : List Char) : Option Nat :=
  let digits := (chars.drop 1).takeWhile Char.isDigit
  if digits.isEmpty then none else some (Ascii.ofDigits 10 digits)

/-- The scheme of a URL and the port that its text names. -/
def schemeAndPort? (text : String) : Option (String × Option Nat) :=
  (splitScheme? (significant text)).map fun (scheme, chars) =>
    (scheme, portNumber? (afterHost false (afterUserInfo
      (writtenAuthority (schemeKind scheme) chars))))

/-- A port that a scheme implies though it is not the one that its security implies. -/
def isLost (scheme : String) (port : Nat) : Bool :=
  (scheme == "ws" && port == 80) || (scheme == "ftp" && port == 21)

/-! ## Reading -/

/-- A number that is a port, if there is one. -/
def Fits (number : Option Nat) : Prop := ∀ value ∈ number, value < 65536

/-- The number that more digits make of one. -/
def withDigits (value : Option Nat) (digits : List Char) : Option Nat :=
  digits.foldl (fun value digit => some (value.getD 0 * 10 + Ascii.digitValue digit)) value

theorem fits_none : Fits none := by simp [Fits]

theorem withDigits_some (value : Nat) (digits : List Char) :
    withDigits (some value) digits =
      some (digits.foldl (fun value digit => value * 10 + Ascii.digitValue digit) value) := by
  induction digits generalizing value with
  | nil => rfl
  | cons digit rest induction => exact induction _

/-- Digits make up the number that they stand for. -/
theorem withDigits_none (digit : Char) (rest : List Char) :
    withDigits none (digit :: rest) = some (Ascii.ofDigits 10 (digit :: rest)) :=
  withDigits_some (0 * 10 + Ascii.digitValue digit) rest

theorem portNumber?_eq (chars : List Char) :
    portNumber? chars = withDigits none ((chars.drop 1).takeWhile Char.isDigit) := by
  rw [portNumber?]
  cases (chars.drop 1).takeWhile Char.isDigit with
  | nil => rfl
  | cons digit rest => exact (withDigits_none digit rest).symm

/-- The digits that are read are those at the start of what is left, and never too many. -/
theorem readPort_digits (scheme : String) {value : Option Nat} (fits : Fits value)
    (chars : List Char) :
    Yields (fun found => Fits (withDigits value (chars.takeWhile Char.isDigit)) ∧
        found.1 = readPort.named scheme (withDigits value (chars.takeWhile Char.isDigit)))
      (readPort scheme value chars) := by
  induction chars generalizing value with
  | nil => exact yields_ok ⟨fits, rfl⟩
  | cons char rest induction =>
      rw [readPort]
      cases digit : char.isDigit with
      | true =>
          have digits : (char :: rest).takeWhile Char.isDigit =
              char :: rest.takeWhile Char.isDigit := by simp [digit]
          simp only [digits, ↓reduceIte]
          split
          · exact yields_error _
          · rename_i small
            refine induction ?_
            rintro _ ⟨⟩
            omega
      | false =>
          have no_digits : (char :: rest).takeWhile Char.isDigit = [] := by simp [digit]
          rw [no_digits, if_neg (by simp)]
          split
          · exact yields_ok ⟨fits, rfl⟩
          · exact yields_error _

theorem afterHost_head (inBrackets : Bool) (chars : List Char) :
    ∀ char ∈ (afterHost inBrackets chars).head?, char = ':' := by
  induction chars generalizing inBrackets with
  | nil => simp [afterHost]
  | cons char rest induction =>
      rw [afterHost]
      split
      · rename_i colon
        simp only [Bool.and_eq_true, beq_iff_eq] at colon
        simp [colon.1]
      · exact induction _

theorem not_isDigit_of_endsAuthority {kind : SchemeKind} {char : Char}
    (ends : endsAuthority kind char = true) : char.isDigit = false := by
  have no_digit : ∀ mark ∈ ['/', '\\', '?', '#'], mark.isDigit = false := by simp
  apply no_digit char
  simp only [endsAuthority, isSlash, Bool.or_eq_true, Bool.and_eq_true, beq_iff_eq] at ends
  rcases ends with ((slash | backslash) | question) | sign
  · simp [slash]
  · simp [backslash.1]
  · simp [question]
  · simp [sign]

section Authority

variable {kind : SchemeKind} {authority rest : List Char}

/-- What is left of a text after its host: the rest of its authority and what follows that. -/
theorem drop_hostLength (within : ∀ char ∈ authority, endsAuthority kind char = false)
    (ended : ∀ char ∈ rest.head?, endsAuthority kind char = true) (inBrackets : Bool) :
    (authority ++ rest).drop (hostLength kind inBrackets (authority ++ rest)) =
      afterHost inBrackets authority ++ rest := by
  induction authority generalizing inBrackets with
  | nil =>
      cases rest with
      | nil => rfl
      | cons char more =>
          have ends : endsAuthority kind char = true := ended char rfl
          simp [hostLength, ends, afterHost]
  | cons char more induction =>
      obtain ⟨goes_on, within⟩ := List.forall_mem_cons.mp within
      rw [List.cons_append, hostLength, afterHost, goes_on, Bool.or_false]
      split
      · rfl
      · rw [List.drop_succ_cons]
        exact induction within _

theorem splitUserInfo_rest (kind : SchemeKind) (chars : List Char) :
    Yields (fun found => found.2 =
        afterUserInfo (chars.takeWhile fun char => !endsAuthority kind char) ++
          chars.dropWhile fun char => !endsAuthority kind char)
      (splitUserInfo kind chars) := by
  rw [splitUserInfo]
  dsimp only
  split
  · rename_i no_sign
    refine yields_ok ?_
    have kept : afterUserInfo (chars.takeWhile fun char => !endsAuthority kind char) =
        chars.takeWhile fun char => !endsAuthority kind char := by
      refine List.rtakeWhile_eq_self_iff.mpr fun char char_mem => ?_
      rw [bne_iff_ne]
      rintro rfl
      simp only [Bool.not_eq_true', List.contains_eq_mem, decide_eq_false_iff_not] at no_sign
      exact no_sign char_mem
    rw [kept, List.takeWhile_append_dropWhile]
  · split
    · exact yields_error _
    · exact yields_ok rfl

theorem readHostAndPort_named (scheme : String)
    (within : ∀ char ∈ authority, endsAuthority (schemeKind scheme) char = false)
    (ended : ∀ char ∈ rest.head?, endsAuthority (schemeKind scheme) char = true) :
    Yields (fun found => Fits (portNumber? (afterHost false authority)) ∧
        found.2.1 = readPort.named scheme (portNumber? (afterHost false authority)))
      (readHostAndPort scheme (authority ++ rest)) := by
  have after_host := drop_hostLength within ended false
  rw [readHostAndPort]
  simp only [after_host]
  refine yields_check fun _ => ?_
  refine yields_either (yields_trivial _) (yields_trivial _) fun host _ => ?_
  cases port : afterHost false authority with
  | nil =>
      split
      · rename_i colon
        have ends := ended ':' (by simp [show rest = ':' :: _ from colon])
        cases schemeKind scheme <;> cases ends
      · exact yields_ok ⟨fits_none, rfl⟩
  | cons char digits =>
      obtain rfl := afterHost_head false authority char (by simp [port])
      rw [List.cons_append]
      refine yields_check fun _ => ?_
      refine (readPort_digits scheme fits_none (digits ++ rest)).bind ?_
      rintro ⟨found, left⟩ ⟨fits, found_eq⟩
      have same_digits : portNumber? (':' :: digits) =
          withDigits none ((digits ++ rest).takeWhile Char.isDigit) := by
        have stops : ∀ char ∈ rest.head?, char.isDigit = false :=
          fun char char_mem => not_isDigit_of_endsAuthority (ended char char_mem)
        rw [takeWhile_append_of_head stops, portNumber?_eq]
        rfl
      refine yields_ok ?_
      rw [same_digits]
      exact ⟨fits, found_eq⟩

end Authority

/-- The port of a URL is the one that a number names, unless its scheme implies it. -/
def Ported (url : Url) (number : Option Nat) : Prop :=
  Fits number ∧ url.port = readPort.named url.scheme number

theorem readAuthority_ported (scheme : String) (chars : List Char) :
    Yields (fun url => url.scheme = scheme ∧
        Ported url (portNumber? (afterHost false (afterUserInfo
          (chars.takeWhile fun char => !endsAuthority (schemeKind scheme) char)))))
      (readAuthority scheme chars) := by
  have within : ∀ char ∈ chars.takeWhile (fun char => !endsAuthority (schemeKind scheme) char),
      endsAuthority (schemeKind scheme) char = false := by
    intro char char_mem
    simpa using List.mem_takeWhile_imp char_mem
  have ended : ∀ char ∈
      (chars.dropWhile fun char => !endsAuthority (schemeKind scheme) char).head?,
      endsAuthority (schemeKind scheme) char = true := by
    intro char char_mem
    have stopped := List.head?_dropWhile_not (fun char => !endsAuthority (schemeKind scheme) char)
      chars
    rw [char_mem] at stopped
    simpa using stopped
  rw [readAuthority]
  refine (splitUserInfo_rest _ chars).bind ?_
  rintro ⟨info, after_info⟩ rfl
  refine (readHostAndPort_named scheme (fun char char_mem => within char ?_) ended).bind ?_
  · exact List.rtakeWhile_suffix .. |>.subset char_mem
  rintro ⟨host, port, after_port⟩ ⟨fits, port_eq⟩
  exact yields_check fun _ => yields_ok ⟨rfl, fits, port_eq⟩

/-- A URL with a host has the port that its text names, unless its scheme implies it. -/
theorem parse_ported (text : String) :
    Yields (fun url => url.scheme ≠ "file" → url.host ≠ none →
        ∃ number, schemeAndPort? text = some (url.scheme, number) ∧ Ported url number)
      (parse text) := by
  rw [parse, schemeAndPort?]
  cases split_off : splitScheme? (significant text) with
  | none => exact yields_error _
  | some found =>
      obtain ⟨scheme, chars⟩ := found
      dsimp only
      rw [readAfterScheme.eq_def, Option.map_some]
      cases kind : schemeKind scheme with
      | file =>
          refine (scheme_of_readFile (by simp) chars).weaken ?_
          intro url scheme_eq not_file
          exact absurd scheme_eq not_file
      | other =>
          have authority := readAuthority_ported scheme (chars.drop 2)
          rw [kind] at authority
          dsimp only
          rw [readOther.eq_def]
          split
          · refine authority.weaken ?_
            rintro url ⟨rfl, ported⟩ _ _
            exact ⟨_, rfl, ported⟩
          · exact yields_ok fun _ has_host => absurd rfl has_host
          · exact yields_ok fun _ has_host => absurd rfl has_host
      | network =>
          have opened := drop_length_takeWhile (isSlash .network) chars
          have authority := readAuthority_ported scheme (chars.dropWhile (isSlash .network))
          rw [kind] at authority
          dsimp only
          rw [opened]
          refine authority.weaken ?_
          rintro url ⟨rfl, ported⟩ _ _
          exact ⟨_, rfl, ported⟩

/-- A port is lost exactly if the scheme implies it and its security another. -/
theorem isLost_iff {scheme : String} {secure : Bool} (number : Nat)
    (security : Client.schemeSecurity? scheme = some secure) :
    isLost scheme number = true ↔ ∃ implied, knownPort? scheme = some implied ∧
      implied.toNat = number ∧ implied ≠ defaultPort secure := by
  have plain : ∀ scheme ∈ ["http", "ftp"], Client.schemeSecurity? scheme = some false := by decide
  have secured : ∀ scheme ∈ ["ws", "https", "wss"], Client.schemeSecurity? scheme = some true := by
    decide
  rw [knownPort?.eq_def]
  split
  · cases security.symm.trans (plain "http" (by simp))
    simp [isLost, defaultPort, plainPort]
  · cases security.symm.trans (secured "ws" (by simp))
    simp [isLost, defaultPort, securePort]
    exact eq_comm
  · cases security.symm.trans (secured "https" (by simp))
    simp [isLost, defaultPort, securePort]
  · cases security.symm.trans (secured "wss" (by simp))
    simp [isLost, defaultPort, securePort]
  · cases security.symm.trans (plain "ftp" (by simp))
    simp [isLost, defaultPort, plainPort]
    exact eq_comm
  · rename_i not_ws _ _ not_ftp
    simp [isLost, show scheme ≠ "ws" from not_ws, show scheme ≠ "ftp" from not_ftp]

/-- Where a port is named, that of its security stands in for it only if it is lost. -/
theorem named_getD {scheme : String} {secure : Bool} {number : Nat}
    (security : Client.schemeSecurity? scheme = some secure) (fits : number < 65536) :
    (readPort.named scheme (some number)).getD (defaultPort secure) =
      if isLost scheme number then defaultPort secure else UInt16.ofNat number := by
  have number_eq : (UInt16.ofNat number).toNat = number := UInt16.toNat_ofNat_of_lt fits
  rw [readPort.named, Option.map_some, Option.filter_some]
  have lost_iff := isLost_iff number security
  by_cases known : knownPort? scheme = some (UInt16.ofNat number)
  · rw [if_neg (by simp [known])]
    cases lost : isLost scheme number with
    | true => rfl
    | false =>
        by_contra differs
        have is_lost := lost_iff.mpr ⟨_, known, number_eq, Ne.symm differs⟩
        exact Bool.noConfusion (lost.symm.trans is_lost)
  · rw [if_pos (by simpa using known)]
    cases lost : isLost scheme number with
    | true =>
        obtain ⟨implied, implied_eq, rfl, _⟩ := lost_iff.mp lost
        rw [UInt16.ofNat_toNat] at known
        exact absurd implied_eq known
    | false => rfl

end Url

/-- The port of a request for a URL is the one that the text of the URL names, but for the two that
are lost, and the one of its security where none is named. -/
theorem named_ports_kept (client : Client) (method text : String) (request : Request)
    (accepted : client.dispatchAbsolute method text = .ok request) :
    ∃ scheme number standard, Url.schemeAndPort? text = some (scheme, number) ∧
      (scheme.toList.getLast? = some 'p' ∧ standard = 80 ∨
        scheme.toList.getLast? = some 's' ∧ standard = 443) ∧
      (number = none → request.target.port = standard) ∧
      ∀ port ∈ number, if Url.isLost scheme port then request.target.port = standard
        else request.target.port.toNat = port := by
  obtain ⟨url, secure, host, parsed, security, host_eq, made⟩ :=
    Client.dispatchAbsolute_cases accepted
  obtain ⟨_, _, _, rfl⟩ := Client.dispatch_ok_iff.mp made
  have port_eq := (client.routed_common method (bareHost host) (url.port.getD (defaultPort secure))
    ((some secure).getD client.config.secure) url.target none).2.2.1
  have has_host : url.host ≠ none := by
    intro no_host
    simp [Url.hostText?, no_host] at host_eq
  have not_file : url.scheme ≠ "file" := by
    intro is_file
    have refused : Client.schemeSecurity? "file" = none := by decide
    rw [is_file, refused] at security
    cases security
  obtain ⟨number, written, fits, named⟩ := Url.parse_ported text url parsed not_file has_host
  refine ⟨url.scheme, number, defaultPort secure, written, ?_, ?_, ?_⟩
  · rw [Client.schemeSecurity?.eq_def] at security
    split at security
    · rename_i plain
      cases security
      exact .inl ⟨plain, rfl⟩
    · rename_i secured
      cases security
      exact .inr ⟨secured, rfl⟩
    · cases security
  · rintro rfl
    rw [port_eq, named]
    rfl
  · rintro port ⟨⟩
    rw [port_eq, named, Url.named_getD security (fits port rfl)]
    split
    · rfl
    · exact UInt16.toNat_ofNat_of_lt (fits port rfl)

/-- A port that is named is kept, and where none is named that of the security stands. -/
theorem named_port_of_literal :
    let client : Client := { config := {} }
    (∃ request, client.dispatchAbsolute "GET" "ws://u:80@[::1]:8080/x" = .ok request ∧
      Url.schemeAndPort? "ws://u:80@[::1]:8080/x" = some ("ws", some 8080) ∧
      request.target.port.toNat = 8080) ∧
    ∃ request, client.dispatchAbsolute "GET" "wss:[::1]" = .ok request ∧
      Url.schemeAndPort? "wss:[::1]" = some ("wss", none) ∧ request.target.port = 443 := by
  intro client
  have accepted (text : String)
      (told : (client.dispatchAbsolute "GET" text).toOption.isSome = true) :
      ∃ request, client.dispatchAbsolute "GET" text = .ok request := by
    obtain ⟨request, request_eq⟩ := Option.isSome_iff_exists.mp told
    exact ⟨request, toOption_eq_some_iff.mp request_eq⟩
  constructor
  · obtain ⟨request, made⟩ := accepted "ws://u:80@[::1]:8080/x" (by decide +kernel)
    have named : Url.schemeAndPort? "ws://u:80@[::1]:8080/x" = some ("ws", some 8080) := by
      decide +kernel
    obtain ⟨scheme, number, standard, written, _, _, kept⟩ :=
      named_ports_kept client "GET" "ws://u:80@[::1]:8080/x" request made
    cases named.symm.trans written
    exact ⟨request, made, named, kept 8080 rfl⟩
  · obtain ⟨request, made⟩ := accepted "wss:[::1]" (by decide +kernel)
    have named : Url.schemeAndPort? "wss:[::1]" = some ("wss", none) := by decide +kernel
    obtain ⟨scheme, number, standard, written, standard_eq, implied, _⟩ :=
      named_ports_kept client "GET" "wss:[::1]" request made
    cases named.symm.trans written
    rcases standard_eq with ⟨plain, _⟩ | ⟨_, rfl⟩
    · exact absurd plain (by decide)
    · exact ⟨request, made, named, implied rfl⟩

/-- The port of a file transfer is lost: the request goes to that of plain connections. -/
theorem implied_port_lost :
    let client : Client := { config := {} }
    ∃ request, client.dispatchAbsolute "GET" "ftp://[::1]:21/" = .ok request ∧
      Url.schemeAndPort? "ftp://[::1]:21/" = some ("ftp", some 21) ∧ request.target.port = 80 := by
  intro client
  have requested : (client.dispatchAbsolute "GET" "ftp://[::1]:21/").toOption.map
      (·.target.port) = some 80 := by decide +kernel
  obtain ⟨request, made, port⟩ := Option.map_eq_some_iff.mp requested
  exact ⟨request, toOption_eq_some_iff.mp made, by decide +kernel, port⟩

end Courier
