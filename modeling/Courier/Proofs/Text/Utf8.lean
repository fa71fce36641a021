import Courier.Bytes

/-!
# Texts and their octets

A text is read back from its own octets: each character from the one, two, three or four octets that
it is written as.  Different texts therefore have different octets.
-/

namespace Courier.Bytes

/-! ## One octet -/

theorem toNat_octet {value : Nat} (octet : value < 256) : (UInt8.ofNat value).toNat = value := by
  simpa using octet

/-- What an octet opens, by its value. -/
theorem opening_octet {value : Nat} (octet : value < 256) :
    opening (UInt8.ofNat value) =
      if value < 0x80 then .whole (Char.ofNat value)
      else if value < 0xC2 then .bad
      else if value < 0xE0 then .opens ⟨1, 0x80, 0xBF, value - 0xC0⟩
      else if value = 0xE0 then .opens ⟨2, 0xA0, 0xBF, 0⟩
      else if value = 0xED then .opens ⟨2, 0x80, 0x9F, 13⟩
      else if value < 0xF0 then .opens ⟨2, 0x80, 0xBF, value - 0xE0⟩
      else if value = 0xF0 then .opens ⟨3, 0x90, 0xBF, 0⟩
      else if value < 0xF4 then .opens ⟨3, 0x80, 0xBF, value - 0xF0⟩
      else if value = 0xF4 then .opens ⟨3, 0x80, 0x8F, 4⟩
      else .bad := by
  simp only [opening, UInt8.lt_iff_toNat_lt, beq_iff_eq, ← UInt8.toNat_inj, toNat_octet octet]
  rfl

theorem feed_first {value : Nat} {rest : Partial} (read : List (Option Char)) (others : Bytes)
    (opens : opening (UInt8.ofNat value) = .opens rest) :
    (UInt8.ofNat value :: others).foldl Decoding.feed ⟨none, read⟩ =
      others.foldl Decoding.feed ⟨some rest, read⟩ := by
  rw [List.foldl_cons]
  simp only [Decoding.feed, Decoding.start, opens]

/-- An octet of the range that is owed goes on with the character. -/
theorem feed_tail {rest : Partial} {value : Nat} (read : List (Option Char)) (small : value < 64)
    (low : rest.low.toNat ≤ value + 128) (high : value + 128 ≤ rest.high.toNat) :
    Decoding.feed ⟨some rest, read⟩ (UInt8.ofNat (value + 128)) =
      if rest.owed ≤ 1 then ⟨none, some (Char.ofNat (rest.bits * 64 + value)) :: read⟩
      else ⟨some ⟨rest.owed - 1, 0x80, 0xBF, rest.bits * 64 + value⟩, read⟩ := by
  have octet : (UInt8.ofNat (value + 128)).toNat = value + 128 := toNat_octet (by omega)
  have between : (rest.low ≤ UInt8.ofNat (value + 128) &&
      UInt8.ofNat (value + 128) ≤ rest.high) = true := by
    simp only [UInt8.le_iff_toNat_le, octet, low, high, decide_true, Bool.and_self]
  have bits : (UInt8.ofNat (value + 128)).toNat - 0x80 = value := by omega
  simp only [Decoding.feed, between, bits, if_true]

/-! ## The octets that a character ends with -/

variable {rest : Partial} {code : Nat}

theorem feed_one_tail (read : List (Option Char)) (owed : rest.owed = 1)
    (low : rest.low.toNat ≤ code % 64 + 128) (high : code % 64 + 128 ≤ rest.high.toNat)
    (bits : rest.bits = code / 64) :
    [UInt8.ofNat (code % 64 + 128)].foldl Decoding.feed ⟨some rest, read⟩ =
      ⟨none, some (Char.ofNat code) :: read⟩ := by
  have whole : rest.bits * 64 + code % 64 = code := by omega
  rw [List.foldl_cons, feed_tail read (by omega) low high, owed, if_pos (by omega), whole]
  rfl

theorem feed_two_tails (read : List (Option Char)) (owed : rest.owed = 2)
    (low : rest.low.toNat ≤ code / 64 % 64 + 128)
    (high : code / 64 % 64 + 128 ≤ rest.high.toNat) (bits : rest.bits = code / 4096) :
    [UInt8.ofNat (code / 64 % 64 + 128), UInt8.ofNat (code % 64 + 128)].foldl Decoding.feed
      ⟨some rest, read⟩ = ⟨none, some (Char.ofNat code) :: read⟩ := by
  rw [List.foldl_cons, feed_tail read (by omega) low high, owed, if_neg (by omega)]
  refine feed_one_tail read rfl (Nat.le_add_left _ _) ?_ ?_
  · show _ ≤ 0xBF
    omega
  · show rest.bits * 64 + code / 64 % 64 = code / 64
    omega

theorem feed_three_tails (read : List (Option Char)) (owed : rest.owed = 3)
    (low : rest.low.toNat ≤ code / 4096 % 64 + 128)
    (high : code / 4096 % 64 + 128 ≤ rest.high.toNat) (bits : rest.bits = code / 262144) :
    [UInt8.ofNat (code / 4096 % 64 + 128), UInt8.ofNat (code / 64 % 64 + 128),
      UInt8.ofNat (code % 64 + 128)].foldl Decoding.feed ⟨some rest, read⟩ =
        ⟨none, some (Char.ofNat code) :: read⟩ := by
  rw [List.foldl_cons, feed_tail read (by omega) low high, owed, if_neg (by omega)]
  refine feed_two_tails read rfl (Nat.le_add_left _ _) ?_ ?_
  · show _ ≤ 0xBF
    omega
  · show rest.bits * 64 + code / 4096 % 64 = code / 4096
    omega

/-! ## Characters by their number of octets -/

theorem feed_two_octets (read : List (Option Char)) (low : 0x80 ≤ code) (high : code < 0x800) :
    [UInt8.ofNat (code / 64 % 32 + 192), UInt8.ofNat (code % 64 + 128)].foldl Decoding.feed
      ⟨none, read⟩ = ⟨none, some (Char.ofNat code) :: read⟩ := by
  have lead : code / 64 % 32 + 192 - 0xC0 = code / 64 := by omega
  have opens := opening_octet (show code / 64 % 32 + 192 < 256 by omega)
  rw [if_neg (by omega), if_neg (by omega), if_pos (by omega), lead] at opens
  rw [feed_first read _ opens]
  refine feed_one_tail read rfl (Nat.le_add_left _ _) ?_ rfl
  show _ ≤ 0xBF
  omega

/-- The first octet of three narrows what may follow it at both ends of its range, against code
points that need fewer octets and against surrogates. -/
theorem feed_three_octets (read : List (Option Char)) (low : 0x800 ≤ code) (high : code < 0x10000)
    (scalar : code < 0xD800 ∨ 0xE000 ≤ code) :
    [UInt8.ofNat (code / 4096 % 16 + 224), UInt8.ofNat (code / 64 % 64 + 128),
      UInt8.ofNat (code % 64 + 128)].foldl Decoding.feed ⟨none, read⟩ =
        ⟨none, some (Char.ofNat code) :: read⟩ := by
  have lead : code / 4096 % 16 + 224 - 0xE0 = code / 4096 := by omega
  have opens := opening_octet (show code / 4096 % 16 + 224 < 256 by omega)
  rw [if_neg (by omega), if_neg (by omega), if_neg (by omega)] at opens
  split at opens
  · rw [feed_first read _ opens]
    refine feed_two_tails read rfl ?_ ?_ ?_
    · show 0xA0 ≤ _
      omega
    · show _ ≤ 0xBF
      omega
    · show 0 = _
      omega
  · split at opens
    · rw [feed_first read _ opens]
      refine feed_two_tails read rfl (Nat.le_add_left _ _) ?_ ?_
      · show _ ≤ 0x9F
        omega
      · show 13 = _
        omega
    · rw [if_pos (by omega), lead] at opens
      rw [feed_first read _ opens]
      refine feed_two_tails read rfl (Nat.le_add_left _ _) ?_ rfl
      show _ ≤ 0xBF
      omega

theorem feed_four_octets (read : List (Option Char)) (low : 0x10000 ≤ code)
    (high : code < 0x110000) :
    [UInt8.ofNat (code / 262144 % 8 + 240), UInt8.ofNat (code / 4096 % 64 + 128),
      UInt8.ofNat (code / 64 % 64 + 128), UInt8.ofNat (code % 64 + 128)].foldl Decoding.feed
        ⟨none, read⟩ = ⟨none, some (Char.ofNat code) :: read⟩ := by
  have lead : code / 262144 % 8 + 240 - 0xF0 = code / 262144 := by omega
  have opens := opening_octet (show code / 262144 % 8 + 240 < 256 by omega)
  rw [if_neg (by omega), if_neg (by omega), if_neg (by omega), if_neg (by omega),
    if_neg (by omega), if_neg (by omega)] at opens
  split at opens
  · rw [feed_first read _ opens]
    refine feed_three_tails read rfl ?_ ?_ ?_
    · show 0x90 ≤ _
      omega
    · show _ ≤ 0xBF
      omega
    · show 0 = _
      omega
  · split at opens
    · rw [lead] at opens
      rw [feed_first read _ opens]
      refine feed_three_tails read rfl (Nat.le_add_left _ _) ?_ rfl
      show _ ≤ 0xBF
      omega
    · rw [if_pos (by omega)] at opens
      rw [feed_first read _ opens]
      refine feed_three_tails read rfl (Nat.le_add_left _ _) ?_ ?_
      · show _ ≤ 0x8F
        omega
      · show 4 = _
        omega

theorem code_lt (char : Char) : char.toNat < 0x110000 := by
  rcases char.valid with low | high
  · exact Nat.lt_trans low (by decide)
  · exact high.2

/-- No character is half of a surrogate pair. -/
theorem code_scalar (char : Char) : char.toNat < 0xD800 ∨ 0xE000 ≤ char.toNat := by
  rcases char.valid with low | high
  · exact .inl low
  · exact .inr high.1

theorem code_ofNat {code : Nat} (scalar : code < 0xD800) : (Char.ofNat code).toNat = code := by
  have valid : code.isValidChar := .inl scalar
  rw [Char.ofNat, dif_pos valid]
  rfl

/-- A character is read from its own octets. -/
theorem feed_char (read : List (Option Char)) (char : Char) :
    (String.utf8EncodeChar char).foldl Decoding.feed ⟨none, read⟩ = ⟨none, some char :: read⟩ := by
  have bounded := code_lt char
  have scalar := code_scalar char
  have whole : Char.ofNat char.toNat = char := Char.ofNat_toNat char
  have code_eq : char.val.toNat = char.toNat := rfl
  rw [String.utf8EncodeChar, code_eq]
  generalize char.toNat = code at bounded scalar whole
  rw [← whole]
  split
  · rename_i small
    simp [Decoding.feed, Decoding.start, opening_octet (show code < 256 by omega),
      show code < 128 by omega]
  · split
    · exact feed_two_octets read (by omega) (by omega)
    · split
      · exact feed_three_octets read (by omega) (by omega) scalar
      · exact feed_four_octets read (by omega) bounded

/-! ## Texts -/

theorem feed_chars (chars : List Char) (read : List (Option Char)) :
    (chars.flatMap String.utf8EncodeChar).foldl Decoding.feed ⟨none, read⟩ =
      ⟨none, (chars.map some).reverse ++ read⟩ := by
  induction chars generalizing read with
  | nil => rfl
  | cons char chars induction =>
      rw [List.flatMap_cons, List.foldl_append, feed_char, induction]
      simp

/-- A text is read back from its octets. -/
theorem toString?_flatMap (chars : List Char) :
    toString? (chars.flatMap String.utf8EncodeChar) = some (String.ofList chars) := by
  have decoded : decode (chars.flatMap String.utf8EncodeChar) = chars.map some := by
    rw [decode, feed_chars]
    simp [Decoding.finish]
  simp [toString?, decoded]

theorem toString?_ofString (text : String) : toString? (ofString text) = some text := by
  rw [ofString, toString?_flatMap, String.ofList_toList]

/-- Different texts have different octets. -/
theorem ofString_inj {left right : String} : ofString left = ofString right ↔ left = right := by
  constructor
  · intro same
    have read := congrArg toString? same
    rw [toString?_ofString, toString?_ofString] at read
    exact Option.some.inj read
  · rintro rfl
    rfl

theorem ofString_append (left right : String) :
    ofString (left ++ right) = ofString left ++ ofString right := by
  simp [ofString]

/-- A character of ASCII is one octet. -/
theorem utf8EncodeChar_ascii {char : Char} (ascii : char.toNat < 128) :
    String.utf8EncodeChar char = [UInt8.ofNat char.toNat] := by
  have small : char.val.toNat ≤ 127 := Nat.le_of_lt_succ ascii
  rw [String.utf8EncodeChar, if_pos small]
  rfl

end Courier.Bytes
