import Courier.Text.Ascii

/-!
# Numbers and their digits

A number is read back from the digits that it is written with.
-/

namespace Courier.Ascii

theorem digitValue_digitChar {value : Nat} (small : value < 16) :
    digitValue (Nat.digitChar value) = value := by
  have each : ∀ value ∈ List.range 16, digitValue (Nat.digitChar value) = value := by decide
  exact each value (List.mem_range.mpr small)

theorem ofDigits_append_singleton (base : Nat) (digits : List Char) (digit : Char) :
    ofDigits base (digits ++ [digit]) = ofDigits base digits * base + digitValue digit := by
  rw [ofDigits, List.foldl_append]
  rfl

theorem ofDigits_toDigits {base : Nat} (several : 1 < base) (most : base ≤ 16) (value : Nat) :
    ofDigits base (Nat.toDigits base value) = value := by
  induction value using Nat.strongRecOn with
  | ind value induction =>
      rw [Nat.toDigits_eq_if several]
      split
      · rename_i small
        have last := digitValue_digitChar (Nat.lt_of_lt_of_le small most)
        simpa [ofDigits] using last
      · rename_i large
        have smaller : value / base < value := Nat.div_lt_self (by omega) several
        have last : value % base < 16 := Nat.lt_of_lt_of_le (Nat.mod_lt _ (by omega)) most
        rw [ofDigits_append_singleton, induction _ smaller, digitValue_digitChar last]
        exact Nat.div_add_mod' value base

end Courier.Ascii
