import Courier.Bytes
import Courier.Text.Base64

/-!
# The standard form of octets in Base64

`standard` is the form as the standard describes it: the bits of the octets in groups of six, each
group as a letter of the alphabet, padded to whole groups of four letters.  `encode` writes this
form, and `decode` reads the octets from it.
-/

namespace Courier.Base64

/-! ## The standard -/

/-- The digits in the order of their values. -/
def alphabet : List Char :=
  "ABCDEFGHIJKLMNOPQRSTUVWXYZabcdefghijklmnopqrstuvwxyz0123456789+/".toList

/-- The bits of an octet, the highest one first. -/
def octetBits (byte : UInt8) : List Nat :=
  [128, 64, 32, 16, 8, 4, 2, 1].map fun weight => byte.toNat / weight % 2

/-- The values of groups of six bits; zeros fill up the last group. -/
def sextets : List Nat → List Nat
  | [] => []
  | [a] => [32 * a]
  | [a, b] => [32 * a + 16 * b]
  | [a, b, c] => [32 * a + 16 * b + 8 * c]
  | [a, b, c, d] => [32 * a + 16 * b + 8 * c + 4 * d]
  | [a, b, c, d, e] => [32 * a + 16 * b + 8 * c + 4 * d + 2 * e]
  | a :: b :: c :: d :: e :: f :: rest =>
    (32 * a + 16 * b + 8 * c + 4 * d + 2 * e + f) :: sextets rest

/-- The padded form of octets in the standard alphabet. -/
def standard (bytes : Bytes) : String :=
  String.ofList ((sextets (bytes.flatMap octetBits)).map (alphabet.getD · '=') ++
    List.replicate ((3 - bytes.length % 3) % 3) '=')

/-! ## Digits -/

section Digits

variable {value : Nat} (small : value < 64)

include small

theorem alphabet_digit : alphabet.getD value '=' = digit value := by
  have all_small : ∀ value ∈ List.range 64, alphabet.getD value '=' = digit value := by decide
  exact all_small value (List.mem_range.mpr small)

theorem value?_digit : value? (digit value) = some value := by
  have all_small : ∀ value ∈ List.range 64, value? (digit value) = some value := by decide
  exact all_small value (List.mem_range.mpr small)

theorem digit_ne_padding : digit value ≠ '=' := by
  have all_small : ∀ value ∈ List.range 64, digit value ≠ '=' := by decide
  exact all_small value (List.mem_range.mpr small)

/-- A digit is printable. -/
theorem digit_printable : 32 ≤ (digit value).toNat ∧ (digit value).toNat < 127 := by
  have all_small : ∀ value ∈ List.range 64,
      32 ≤ (digit value).toNat ∧ (digit value).toNat < 127 := by decide
  exact all_small value (List.mem_range.mpr small)

end Digits

/-! ## Writing -/

/-- Three octets are four groups of bits. -/
theorem sextets_three (a b c : UInt8) (bits : List Nat) :
    sextets (octetBits a ++ (octetBits b ++ (octetBits c ++ bits))) =
      (a.toNat / 4) :: (a.toNat % 4 * 16 + b.toNat / 16) :: (b.toNat % 16 * 4 + c.toNat / 64) ::
        (c.toNat % 64) :: sextets bits := by
  have := a.toNat_lt
  have := b.toNat_lt
  have := c.toNat_lt
  simp only [octetBits, List.map_cons, List.map_nil, List.cons_append, List.nil_append, sextets,
    List.cons.injEq, and_true]
  refine ⟨?_, ?_, ?_, ?_⟩ <;> omega

theorem sextets_two (a b : UInt8) :
    sextets (octetBits a ++ octetBits b) =
      [a.toNat / 4, a.toNat % 4 * 16 + b.toNat / 16, b.toNat % 16 * 4] := by
  have := a.toNat_lt
  have := b.toNat_lt
  simp only [octetBits, List.map_cons, List.map_nil, List.cons_append, List.nil_append, sextets,
    List.cons.injEq, and_true]
  refine ⟨?_, ?_, ?_⟩ <;> omega

theorem sextets_one (a : UInt8) :
    sextets (octetBits a) = [a.toNat / 4, a.toNat % 4 * 16] := by
  have := a.toNat_lt
  simp only [octetBits, List.map_cons, List.map_nil, sextets, List.cons.injEq, and_true]
  refine ⟨?_, ?_⟩ <;> omega

/-- What is written are the groups of bits, and as much padding as octets are missing from the last
three. -/
theorem encodeChars_eq (bytes : Bytes) :
    encodeChars bytes = (sextets (bytes.flatMap octetBits)).map digit ++
      List.replicate ((3 - bytes.length % 3) % 3) '=' := by
  induction bytes using encodeChars.induct with
  | case1 => rfl
  | case2 a =>
      have := a.toNat_lt
      have first : a.toNat * 16 / 64 = a.toNat / 4 := by omega
      have second : a.toNat * 16 % 64 = a.toNat % 4 * 16 := by omega
      rw [List.flatMap_singleton, sextets_one, encodeChars]
      simp only [first, second]
      rfl
  | case3 a b =>
      have := a.toNat_lt
      have := b.toNat_lt
      have first : (a.toNat * 256 + b.toNat) * 4 / 4096 = a.toNat / 4 := by omega
      have second : (a.toNat * 256 + b.toNat) * 4 / 64 % 64 =
          a.toNat % 4 * 16 + b.toNat / 16 := by omega
      have third : (a.toNat * 256 + b.toNat) * 4 % 64 = b.toNat % 16 * 4 := by omega
      rw [List.flatMap_cons, List.flatMap_singleton, sextets_two, encodeChars]
      simp only [first, second, third]
      rfl
  | case4 a b c rest induction =>
      have := a.toNat_lt
      have := b.toNat_lt
      have := c.toNat_lt
      have first : ((a.toNat * 256 + b.toNat) * 256 + c.toNat) / 262144 = a.toNat / 4 := by omega
      have second : ((a.toNat * 256 + b.toNat) * 256 + c.toNat) / 4096 % 64 =
          a.toNat % 4 * 16 + b.toNat / 16 := by omega
      have third : ((a.toNat * 256 + b.toNat) * 256 + c.toNat) / 64 % 64 =
          b.toNat % 16 * 4 + c.toNat / 64 := by omega
      have fourth : ((a.toNat * 256 + b.toNat) * 256 + c.toNat) % 64 = c.toNat % 64 := by omega
      have length_eq : (a :: b :: c :: rest).length % 3 = rest.length % 3 := by
        simp only [List.length_cons]
        omega
      rw [List.flatMap_cons, List.flatMap_cons, List.flatMap_cons, sextets_three, length_eq,
        encodeChars, induction]
      simp only [first, second, third, fourth, List.map_cons, List.cons_append]

/-- Groups of bits are digits of the alphabet. -/
theorem sextets_small (bytes : Bytes) :
    ∀ value ∈ sextets (bytes.flatMap octetBits), value < 64 := by
  induction bytes using encodeChars.induct with
  | case1 => exact nofun
  | case2 a =>
      have := a.toNat_lt
      rw [List.flatMap_singleton, sextets_one]
      simp only [List.mem_cons, List.not_mem_nil, or_false]
      omega
  | case3 a b =>
      have := a.toNat_lt
      have := b.toNat_lt
      rw [List.flatMap_cons, List.flatMap_singleton, sextets_two]
      simp only [List.mem_cons, List.not_mem_nil, or_false]
      omega
  | case4 a b c rest induction =>
      have := a.toNat_lt
      have := b.toNat_lt
      have := c.toNat_lt
      rw [List.flatMap_cons, List.flatMap_cons, List.flatMap_cons, sextets_three]
      simp only [List.forall_mem_cons]
      exact ⟨by omega, by omega, by omega, by omega, induction⟩

/-- What is written is the standard form. -/
theorem encode_eq_standard (bytes : Bytes) : encode bytes = standard bytes := by
  have digits : (sextets (bytes.flatMap octetBits)).map digit =
      (sextets (bytes.flatMap octetBits)).map (alphabet.getD · '=') :=
    List.map_congr_left fun value value_mem =>
      (alphabet_digit (sextets_small bytes value value_mem)).symm
  rw [encode, standard, encodeChars_eq, digits]

/-- What is written is printable. -/
theorem encode_printable (bytes : Bytes) :
    ∀ char ∈ (encode bytes).toList, 32 ≤ char.toNat ∧ char.toNat < 127 := by
  intro char char_mem
  rw [encode, String.toList_ofList, encodeChars_eq] at char_mem
  rcases List.mem_append.mp char_mem with is_digit | is_padding
  · obtain ⟨value, value_mem, rfl⟩ := List.mem_map.mp is_digit
    exact digit_printable (sextets_small bytes value value_mem)
  · rw [(List.mem_replicate.mp is_padding).2]
    decide

/-! ## Reading -/

/-- A group of four digits is read as three octets. -/
theorem decodeChars_group {a b c d : Nat} (a_small : a < 64) (b_small : b < 64) (c_small : c < 64)
    (d_small : d < 64) (rest : List Char) :
    decodeChars (digit a :: digit b :: digit c :: digit d :: rest) =
      (decodeChars rest).map fun others =>
        let bits := ((a * 64 + b) * 64 + c) * 64 + d
        UInt8.ofNat (bits / 65536) :: UInt8.ofNat (bits / 256 % 256) ::
          UInt8.ofNat (bits % 256) :: others := by
  rw [decodeChars]
  · simp only [value?_digit a_small, value?_digit b_small, value?_digit c_small,
      value?_digit d_small, Option.bind_eq_bind, Option.bind_some]
    cases decodeChars rest <;> rfl
  · exact fun third => absurd third (digit_ne_padding c_small)
  · exact fun fourth => absurd fourth (digit_ne_padding d_small)

theorem ofNat_octet {byte : UInt8} {value : Nat} (value_eq : value = byte.toNat) :
    UInt8.ofNat value = byte := by
  rw [value_eq, UInt8.ofNat_toNat]

theorem decodeChars_encodeChars (bytes : Bytes) : decodeChars (encodeChars bytes) = some bytes := by
  induction bytes using encodeChars.induct with
  | case1 => rfl
  | case2 a =>
      have := a.toNat_lt
      have high := value?_digit (show a.toNat * 16 / 64 < 64 by omega)
      have low := value?_digit (show a.toNat * 16 % 64 < 64 by omega)
      have bits : a.toNat * 16 / 64 * 64 + a.toNat * 16 % 64 = a.toNat * 16 := by omega
      have unused : a.toNat * 16 % 16 = 0 := by omega
      have octet : UInt8.ofNat (a.toNat * 16 / 16) = a := ofNat_octet (by omega)
      simp only [encodeChars, decodeChars, high, low, Option.bind_eq_bind, Option.bind_some, bits,
        unused, octet, beq_self_eq_true, if_true]
  | case3 a b =>
      have := a.toNat_lt
      have := b.toNat_lt
      generalize bits_eq : (a.toNat * 256 + b.toNat) * 4 = bits
      have first := value?_digit (show bits / 4096 < 64 by omega)
      have second := value?_digit (show bits / 64 % 64 < 64 by omega)
      have third := value?_digit (show bits % 64 < 64 by omega)
      have whole : (bits / 4096 * 64 + bits / 64 % 64) * 64 + bits % 64 = bits := by omega
      have unused : bits % 4 = 0 := by omega
      have high : UInt8.ofNat (bits / 1024) = a := ofNat_octet (by omega)
      have low : UInt8.ofNat (bits / 4 % 256) = b := ofNat_octet (by omega)
      rw [encodeChars, bits_eq]
      rw [decodeChars]
      · simp only [first, second, third, Option.bind_eq_bind, Option.bind_some, whole, unused, high,
          low, beq_self_eq_true, if_true]
      · exact fun third => absurd third (digit_ne_padding (by omega))
  | case4 a b c rest induction =>
      have := a.toNat_lt
      have := b.toNat_lt
      have := c.toNat_lt
      generalize bits_eq : (a.toNat * 256 + b.toNat) * 256 + c.toNat = bits
      have whole : ((bits / 262144 * 64 + bits / 4096 % 64) * 64 + bits / 64 % 64) * 64 +
          bits % 64 = bits := by omega
      have first : UInt8.ofNat (bits / 65536) = a := ofNat_octet (by omega)
      have second : UInt8.ofNat (bits / 256 % 256) = b := ofNat_octet (by omega)
      have third : UInt8.ofNat (bits % 256) = c := ofNat_octet (by omega)
      rw [encodeChars, bits_eq, decodeChars_group (by omega) (by omega) (by omega) (by omega),
        induction]
      simp only [Option.map_some, whole, first, second, third]

/-- The octets are read back from the form in which they are written. -/
theorem decode_encode (bytes : Bytes) : decode (encode bytes) = some bytes := by
  rw [decode, encode, String.toList_ofList, decodeChars_encodeChars]

end Courier.Base64
