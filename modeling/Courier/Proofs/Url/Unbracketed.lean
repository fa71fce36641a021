import Courier.Proofs.Url.Network

/-!
# Hosts without brackets

The host of a URL holds no brackets in the form in which it is dialed, whatever its scheme: they
are dropped from an IPv6 address, and stand nowhere else.
-/

namespace Courier

namespace Url

/-! ## Opaque hosts -/

theorem unbracketed_escapeByte (byte : UInt8) :
    ∀ char ∈ escapeByte byte, char ≠ '[' ∧ char ≠ ']' := by
  have digits : ∀ value ∈ List.range 16,
      Ascii.upperHexDigit value ≠ '[' ∧ Ascii.upperHexDigit value ≠ ']' := by decide
  have byte_lt : byte.toNat < 256 := byte.toNat_lt
  have high := digits (byte.toNat / 16) (List.mem_range.mpr (by omega))
  have low := digits (byte.toNat % 16) (List.mem_range.mpr (by omega))
  simp [escapeByte, high, low]

/-- An opaque host keeps or escapes characters, none of which is a bracket. -/
theorem unbracketed_escape {chars : List Char} (permitted : chars.any isForbiddenInHost = false) :
    Unbracketed (escape controlSet chars) := by
  intro char char_mem
  rw [escape, String.toList_ofList] at char_mem
  obtain ⟨source, source_mem, char_mem⟩ := List.mem_flatMap.mp char_mem
  rw [escapeChar] at char_mem
  split at char_mem
  · have source_permitted := List.any_eq_false.mp permitted source source_mem
    rw [List.mem_singleton.mp char_mem]
    constructor
    · rintro rfl
      simp [isForbiddenInHost] at source_permitted
    · rintro rfl
      simp [isForbiddenInHost] at source_permitted
  · obtain ⟨byte, _, char_mem⟩ := List.mem_flatMap.mp char_mem
    exact unbracketed_escapeByte byte char char_mem

theorem parseOpaqueHost_unbracketed (chars : List Char) :
    Yields (fun host : Host => Unbracketed host.text) (parseOpaqueHost chars) := by
  rw [parseOpaqueHost.eq_def]
  split
  · rename_i rest
    exact (parseHost_bare ('[' :: rest)).weaken fun _ bare => bare.unbracketed
  · split
    · exact yields_error _
    · rename_i permitted
      exact yields_ok (unbracketed_escape (Bool.eq_false_iff.mpr permitted))

/-! ## Whole URLs -/

/-- The host that is found, if any, holds no brackets. -/
def HostUnbracketed (host : Option Host) : Prop := ∀ found ∈ host, Unbracketed found.text

theorem hostUnbracketed_none : HostUnbracketed none := nofun

theorem hostUnbracketed_present {host : Host} (unbracketed : Unbracketed host.text) :
    HostUnbracketed (present? host) := by
  rw [present?.eq_def]
  split
  · exact hostUnbracketed_none
  · rintro _ ⟨⟩
    exact unbracketed

theorem readHostAndPort_unbracketed (scheme : String) (chars : List Char) :
    Yields (fun found => HostUnbracketed found.1) (readHostAndPort scheme chars) := by
  rw [readHostAndPort]
  refine yields_check fun _ => ?_
  refine yields_either ((parseHost_bare _).weaken fun _ bare => bare.unbracketed)
    (parseOpaqueHost_unbracketed _) ?_
  intro host unbracketed
  have found := hostUnbracketed_present unbracketed
  split
  · refine yields_check fun _ => ?_
    refine (yields_trivial _).bind ?_
    rintro ⟨port, rest⟩ _
    exact yields_ok found
  · exact yields_ok found

theorem readAuthority_unbracketed (scheme : String) (chars : List Char) :
    Yields (fun url => HostUnbracketed url.host) (readAuthority scheme chars) := by
  rw [readAuthority]
  refine (yields_trivial _).bind ?_
  rintro ⟨info, after_info⟩ _
  refine (readHostAndPort_unbracketed scheme after_info).bind ?_
  rintro ⟨host, port, after_port⟩ unbracketed
  exact yields_check fun _ => yields_ok unbracketed

theorem readFileAuthority_unbracketed (chars : List Char) :
    Yields (fun found => HostUnbracketed found.1) (readFileAuthority chars) := by
  rw [readFileAuthority]
  dsimp only
  split
  · exact yields_ok hostUnbracketed_none
  · split
    · exact yields_ok hostUnbracketed_none
    · refine (parseHost_bare _).bind ?_
      intro host bare
      split
      · exact yields_ok hostUnbracketed_none
      · refine yields_ok ?_
        rintro _ ⟨⟩
        exact bare.unbracketed

theorem fileUrl_unbracketed {host : Option Host} (unbracketed : HostUnbracketed host)
    (segments : List String) (chars : List Char) :
    HostUnbracketed (fileUrl host segments chars).host := by
  rw [fileUrl]
  dsimp only
  split
  · exact hostUnbracketed_none
  · exact unbracketed

theorem readFile_unbracketed (chars : List Char) :
    Yields (fun url => HostUnbracketed url.host) (readFile none chars) := by
  have reference (chars : List Char) : HostUnbracketed (fileReference none chars).host :=
    fileUrl_unbracketed hostUnbracketed_none [] chars
  rw [readFile.eq_def]
  split
  · split
    · refine (readFileAuthority_unbracketed _).bind ?_
      rintro ⟨host, rest⟩ unbracketed
      exact yields_ok (fileUrl_unbracketed unbracketed [] rest)
    · exact yields_ok (reference _)
  · exact yields_ok (reference _)

theorem readOther_unbracketed (scheme : String) (chars : List Char) :
    Yields (fun url => HostUnbracketed url.host) (readOther scheme chars) := by
  rw [readOther.eq_def]
  split
  · exact readAuthority_unbracketed scheme _
  · exact yields_ok hostUnbracketed_none
  · exact yields_ok hostUnbracketed_none

/-- The host of a URL that has been parsed holds no brackets. -/
theorem parse_unbracketed (text : String) :
    Yields (fun url => HostUnbracketed url.host) (parse text) := by
  rw [parse]
  split
  · rename_i scheme rest _
    rw [readAfterScheme.eq_def]
    split
    · exact readFile_unbracketed rest
    · exact readOther_unbracketed scheme rest
    · exact readAuthority_unbracketed scheme _
  · exact yields_error _

end Url

end Courier
