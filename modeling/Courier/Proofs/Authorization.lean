import Courier.Proofs.Http.Headers
import Courier.Proofs.Text.Base64
import Courier.Proofs.Text.Utf8
import Courier.Tunnel
import Mathlib.Data.Option.Basic

/-!
# Credentials as a proxy reads them

Credentials that are configured always can stand in a header, and the proxy reads from the header
what was configured: the octets of the user and the password, whatever characters they hold, and
both of them apart where the user holds no colon.
-/

namespace Courier

open Http (Headers)

/-! ## Texts in headers -/

/-- A printable text can stand in a header. -/
theorem isHeaderText_of_printable {text : String}
    (printable : ∀ char ∈ text.toList, 32 ≤ char.toNat ∧ char.toNat < 127) :
    Http.isHeaderText (Bytes.ofString text) = true := by
  rw [Http.isHeaderText, List.all_eq_true]
  intro byte byte_mem
  obtain ⟨char, char_mem, byte_mem⟩ := List.mem_flatMap.mp byte_mem
  obtain ⟨low, high⟩ := printable char char_mem
  rw [Bytes.utf8EncodeChar_ascii (by omega)] at byte_mem
  have octet : (UInt8.ofNat char.toNat).toNat = char.toNat := Bytes.toNat_octet (by omega)
  have above : (32 : UInt8) ≤ UInt8.ofNat char.toNat := by
    rw [UInt8.le_iff_toNat_le, octet]
    exact low
  have other : UInt8.ofNat char.toNat ≠ 127 := by
    intro same
    have value_eq : char.toNat = 127 := by rw [← octet, same]; rfl
    omega
  rw [List.mem_singleton.mp byte_mem]
  simp [Http.Scan.isValueByte, above, other]

/-! ## The first colon -/

/-- The parts of a text before and after its first colon. -/
def splitColon? (text : String) : Option (String × String) :=
  match text.toList.dropWhile (· != ':') with
  | _ :: after => some (String.ofList (text.toList.takeWhile (· != ':')), String.ofList after)
  | [] => none

theorem splitColon?_append {before : String} (after : String) (plain : ':' ∉ before.toList) :
    splitColon? (before ++ ":" ++ after) = some (before, after) := by
  have others : ∀ char ∈ before.toList, (char != ':') = true := by
    intro char char_mem
    rw [bne_iff_ne]
    rintro rfl
    exact plain char_mem
  have chars : (before ++ ":" ++ after).toList = before.toList ++ ':' :: after.toList := by
    simp [String.toList_append]
  rw [splitColon?, chars, List.dropWhile_append_of_pos others, List.takeWhile_append_of_pos others]
  simp

/-! ## Credentials -/

namespace Tunnel

/-- The user and the password that credentials stand for, as a proxy finds them: the octets behind
the scheme are a text in Base64, and the octets of that are a text that the first colon divides. -/
def readCredentials? (value : Bytes) : Option (String × String) := do
  let scheme := Bytes.ofString "Basic "
  guard (scheme.isPrefixOf value)
  let token ← Bytes.toString? (value.drop scheme.length)
  let octets ← Base64.decode token
  splitColon? (← Bytes.toString? octets)

variable {username password : String}

/-- Credentials can stand in a header. -/
theorem isHeaderText_basicCredentials (username password : String) :
    Http.isHeaderText (basicCredentials username password) = true := by
  apply isHeaderText_of_printable
  rw [String.toList_append]
  refine List.forall_mem_append.mpr ⟨by simp, Base64.encode_printable _⟩

theorem credentials?_eq {proxy : Proxy} (named : proxy.username = some username)
    (known : proxy.password = some password) :
    credentials? proxy = some (basicCredentials username password) := by
  simp [credentials?, named, known, isHeaderText_basicCredentials]

theorem readCredentials?_basicCredentials (password : String) (plain : ':' ∉ username.toList) :
    readCredentials? (basicCredentials username password) = some (username, password) := by
  have value_eq : basicCredentials username password = Bytes.ofString "Basic " ++
      Bytes.ofString (Base64.encode (Bytes.ofString (username ++ ":" ++ password))) :=
    Bytes.ofString_append _ _
  have begins :
      (Bytes.ofString "Basic ").isPrefixOf (basicCredentials username password) = true := by
    rw [value_eq, List.isPrefixOf_iff_prefix]
    exact List.prefix_append _ _
  have rest : (basicCredentials username password).drop (Bytes.ofString "Basic ").length =
      Bytes.ofString (Base64.encode (Bytes.ofString (username ++ ":" ++ password))) := by
    rw [value_eq, List.drop_left]
  simp [readCredentials?, begins, rest, Bytes.toString?_ofString, Base64.decode_encode,
    splitColon?_append password plain]

/-- A configuration under which plain requests go through an HTTP proxy with a user and a
password. -/
structure Authorized (config : Config) (username password : String) : Prop where
  plain : config.secure = false
  proxy : ∃ proxy, config.proxy = some proxy ∧ proxy.kind = .http ∧
    proxy.username = some username ∧ proxy.password = some password

theorem Authorized.tunnel {config : Config} (authorized : Authorized config username password) :
    ∃ tunnel, ofConfig? config = some tunnel ∧
      tunnel.authorization = some (basicCredentials username password) := by
  obtain ⟨plain, proxy, proxy_eq, http, named, known⟩ := authorized
  refine ⟨⟨proxy, credentials? proxy⟩, ?_, credentials?_eq named known⟩
  simp [ofConfig?, proxy_eq, plain, http]

/-- Credentials are never dropped or altered, whatever characters a user and a password hold.  The
tunnel keeps them as the standard form of their octets, puts that in place of any that a request
brings along, and who reads the header finds these octets again; where the user holds no colon,
user and password are found, so that other credentials make another header. -/
theorem credentials_reach_reader (config : Config) (username password : String)
    (authorized : Authorized config username password) :
    ∃ tunnel token, ofConfig? config = some tunnel ∧
      tunnel.authorization = some (Bytes.ofString ("Basic " ++ token)) ∧
      token = Base64.standard (Bytes.ofString (username ++ ":" ++ password)) ∧
      Base64.decode token = some (Bytes.ofString (username ++ ":" ++ password)) ∧
      (∀ headers, ((tunnel.authorize headers).getD .empty).values proxyAuthorization =
        [Bytes.ofString ("Basic " ++ token)]) ∧
      (':' ∉ username.toList →
        readCredentials? (Bytes.ofString ("Basic " ++ token)) = some (username, password) ∧
        ∀ other_config other_tunnel other_username other_password,
          Authorized other_config other_username other_password →
          ofConfig? other_config = some other_tunnel → ':' ∉ other_username.toList →
          other_tunnel.authorization = tunnel.authorization →
            other_username = username ∧ other_password = password) := by
  obtain ⟨tunnel, tunnel_eq, kept⟩ := authorized.tunnel
  let octets := Bytes.ofString (username ++ ":" ++ password)
  refine ⟨tunnel, Base64.encode octets, tunnel_eq, kept, Base64.encode_eq_standard octets,
    Base64.decode_encode octets, ?_, ?_⟩
  · intro headers
    have lower : Ascii.lower proxyAuthorization = proxyAuthorization := by decide
    have inserted := Headers.values_insert_self (headers.getD .empty) proxyAuthorization
      (basicCredentials username password)
    rw [lower] at inserted
    rw [authorize, kept]
    exact inserted
  · intro plain
    have read := readCredentials?_basicCredentials password plain
    refine ⟨read, ?_⟩
    intro other_config other_tunnel other_username other_password other other_eq other_plain same
    obtain ⟨found, found_eq, other_kept⟩ := other.tunnel
    cases other_eq.symm.trans found_eq
    have value_eq : basicCredentials other_username other_password =
        basicCredentials username password := by
      rw [other_kept, kept] at same
      exact Option.some.inj same
    have other_read := readCredentials?_basicCredentials other_password other_plain
    rw [value_eq, read] at other_read
    cases other_read
    exact ⟨rfl, rfl⟩

/-- A user and a password beyond ASCII, one of three octets more than the other. -/
theorem accented_credentials_read :
    let config : Config :=
      { proxy := some
          { host := "proxy", port := 3128, username := some "rené", password := some "a:€" } }
    Authorized config "rené" "a:€" ∧ ':' ∉ "rené".toList ∧
      (ofConfig? config).bind (·.authorization) =
        some (Bytes.ofString "Basic cmVuw6k6YTrigqw=") ∧
      readCredentials? (Bytes.ofString "Basic cmVuw6k6YTrigqw=") = some ("rené", "a:€") := by
  intro config
  have authorized : Authorized config "rené" "a:€" := ⟨rfl, _, rfl, rfl, rfl, rfl⟩
  have plain : ':' ∉ "rené".toList := by decide
  obtain ⟨tunnel, token, tunnel_eq, kept, standard, _, _, read⟩ :=
    credentials_reach_reader config "rené" "a:€" authorized
  have token_eq : token = "cmVuw6k6YTrigqw=" := by
    rw [standard]
    decide
  rw [token_eq] at kept read
  refine ⟨authorized, plain, ?_, (read plain).1⟩
  rw [tunnel_eq]
  exact kept

end Tunnel

end Courier
