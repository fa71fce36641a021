import Courier.Host
import Courier.Proofs.Idna.Domain
import Courier.Url.Host

/-!
# Hosts that can be dialed

The host of a network URL is read into a form that can be dialed as it is: it is not empty, and it
holds no brackets, not even where it is an IPv6 address.
-/

namespace Courier

/-- A host that holds no brackets. -/
def Unbracketed (host : String) : Prop := ∀ char ∈ host.toList, char ≠ '[' ∧ char ≠ ']'

/-- A host that can be dialed as it is. -/
structure Bare (host : String) : Prop where
  named : host.isEmpty = false
  unbracketed : ∀ char ∈ host.toList, char ≠ '[' ∧ char ≠ ']'

theorem bareHost_of_unbracketed {host : String} (unbracketed : Unbracketed host) :
    bareHost host = host := by
  rw [bareHost]
  split
  · rename_i rest opened
    have first_mem : '[' ∈ host.toList := by simp [opened]
    exact absurd rfl (unbracketed '[' first_mem).1
  · rfl

theorem bareHost_of_bare {host : String} (bare : Bare host) : bareHost host = host :=
  bareHost_of_unbracketed bare.unbracketed

theorem bareHost_of_brackets (inner : String) : bareHost ("[" ++ inner ++ "]") = inner := by
  simp [bareHost, String.toList_append]

theorem authorityHost_of_no_colon {host : String} (no_colon : ∀ char ∈ host.toList, char ≠ ':') :
    authorityHost host = host := by
  rw [authorityHost]
  refine if_neg fun bracketed => ?_
  simp only [Bool.and_eq_true, List.contains_iff_mem] at bracketed
  exact no_colon ':' bracketed.1 rfl

namespace Url

/-! ## Addresses in writing -/

/-- A character that an IP address is written with. -/
def isAddressMark (char : Char) : Bool := Ascii.isHexDigit char || char == ':' || char == '.'

/-- A text that an IP address could be written as. -/
def Addressed (text : String) : Prop := ∀ char ∈ text.toList, isAddressMark char = true

theorem bare_of_addressed {text : String} (named : text.isEmpty = false)
    (addressed : Addressed text) : Bare text := by
  refine ⟨named, ?_⟩
  intro char char_mem
  have mark := addressed char char_mem
  constructor
  · rintro rfl
    simp [isAddressMark, Ascii.isHexDigit] at mark
  · rintro rfl
    simp [isAddressMark, Ascii.isHexDigit] at mark

theorem addressed_decimal (value : Nat) : Addressed (toString value) := by
  intro char char_mem
  simp [isAddressMark, Ascii.isHexDigit, isDigit_of_mem_toString char_mem]

theorem isHexDigit_of_mem_toDigits {value : Nat} {char : Char}
    (char_mem : char ∈ Nat.toDigits 16 value) : Ascii.isHexDigit char = true := by
  have digits : ∀ value ∈ List.range 16, Ascii.isHexDigit (Nat.digitChar value) = true := by
    decide
  induction value using Nat.strongRecOn with
  | ind value induction =>
      rw [Nat.toDigits_eq_if (by decide)] at char_mem
      split at char_mem
      · rename_i small
        rw [List.mem_singleton.mp char_mem]
        exact digits value (List.mem_range.mpr small)
      · rcases List.mem_append.mp char_mem with leading | last
        · exact induction (value / 16) (by omega) leading
        · rw [List.mem_singleton.mp last]
          exact digits (value % 16) (List.mem_range.mpr (by omega))

theorem addressed_dot : Addressed "." := by simp [Addressed, isAddressMark]

theorem addressed_colon : Addressed ":" := by simp [Addressed, isAddressMark]

theorem Ipv4.addressed_text (address : UInt32) : Addressed (Ipv4.text address) := by
  refine forall_mem_toList_intercalate addressed_dot ?_
  intro part part_mem
  obtain ⟨value, _, rfl⟩ := List.mem_map.mp part_mem
  exact addressed_decimal value

theorem Ipv4.text_named (address : UInt32) : (Ipv4.text address).isEmpty = false := by
  apply named_of_mem '.'
  simp [Ipv4.text]

namespace Ipv6

theorem addressed_piecesText (pieces : List UInt16) : Addressed (piecesText pieces) := by
  refine forall_mem_toList_intercalate addressed_colon ?_
  intro part part_mem
  obtain ⟨piece, _, rfl⟩ := List.mem_map.mp part_mem
  intro char char_mem
  rw [pieceText, String.toList_ofList] at char_mem
  simp [isAddressMark, isHexDigit_of_mem_toDigits char_mem]

theorem addressed_text (pieces : List UInt16) : Addressed (Ipv6.text pieces) := by
  rw [Ipv6.text.eq_def]
  split
  · refine forall_mem_toList_append ?_ (Ipv4.addressed_text _)
    simp [isAddressMark, Ascii.isHexDigit]
  · dsimp only
    split
    · exact addressed_piecesText pieces
    · refine forall_mem_toList_append (forall_mem_toList_append (addressed_piecesText _) ?_)
        (addressed_piecesText _)
      simp [isAddressMark]

theorem piecesText_named {first : UInt16} {rest : List UInt16} :
    (piecesText (first :: rest)).isEmpty = false := by
  obtain ⟨digit, digits, digits_eq⟩ :=
    List.exists_cons_of_ne_nil (Nat.toDigits_ne_nil (n := first.toNat) (b := 16))
  apply named_of_mem digit
  cases rest with
  | nil => simp [piecesText, pieceText, digits_eq]
  | cons next others => simp [piecesText, pieceText, digits_eq]

theorem text_named {pieces : List UInt16} (nonempty : pieces ≠ []) :
    (Ipv6.text pieces).isEmpty = false := by
  rw [Ipv6.text.eq_def]
  split
  · apply named_of_mem ':'
    simp
  · dsimp only
    split
    · obtain ⟨first, rest, rfl⟩ := List.exists_cons_of_ne_nil nonempty
      exact piecesText_named
    · apply named_of_mem ':'
      simp

/-! ## Reading -/

/-- A complete address has eight pieces. -/
theorem close_length {reading : Reading} {pieces : List UInt16}
    (closed : reading.close = some pieces) : pieces.length = 8 := by
  obtain ⟨left, right⟩ := reading
  cases right with
  | none =>
      simp only [Reading.close, Option.ite_none_right_eq_some] at closed
      obtain ⟨eight, left_eq⟩ := closed
      cases left_eq
      simpa using eight
  | some right =>
      simp only [Reading.close, Option.ite_none_right_eq_some] at closed
      obtain ⟨fits, pieces_eq⟩ := closed
      cases pieces_eq
      simp only [Reading.size, Option.map_some, Option.getD_some] at fits
      simp only [List.length_append, List.length_replicate]
      omega

theorem parse_length {chars : List Char} {pieces : List UInt16}
    (read : parse? chars = some pieces) : pieces.length = 8 := by
  rw [parse?.eq_def] at read
  split at read
  · obtain ⟨reading, _, closed⟩ := Option.bind_eq_some_iff.mp read
    exact close_length closed
  · simp at read
  · simp at read
  · simp at read
  · obtain ⟨reading, _, closed⟩ := Option.bind_eq_some_iff.mp read
    exact close_length closed

end Ipv6

/-- The host of a network URL can be dialed as it is. -/
theorem bare_of_parseHost {chars : List Char} {host : Host} (read : parseHost chars = .ok host) :
    Bare host.text := by
  rw [parseHost.eq_def] at read
  split at read
  · rw [bracketed.eq_def] at read
    split at read
    · split at read
      · rename_i pieces pieces_read
        cases read
        have eight := Ipv6.parse_length pieces_read
        refine bare_of_addressed (Ipv6.text_named ?_) (Ipv6.addressed_text pieces)
        rintro rfl
        simp at eight
      · simp at read
    · simp at read
  · split at read
    · simp at read
    · rename_i name name_read
      obtain ⟨text, _, ascii⟩ := Option.bind_eq_some_iff.mp name_read
      split at read
      · simp at read
      · rename_i named
        split at read
        · split at read
          · rename_i address _
            cases read
            exact bare_of_addressed (Ipv4.text_named address) (Ipv4.addressed_text address)
          · simp at read
        · cases read
          refine ⟨Bool.eq_false_iff.mpr named, ?_⟩
          intro char char_mem
          have permitted := Idna.permitted_toAscii ascii char char_mem
          constructor
          · rintro rfl
            simp [Idna.isForbidden] at permitted
          · rintro rfl
            simp [Idna.isForbidden] at permitted

end Url

end Courier
