import Courier.Idna.Domain
import Courier.Proofs.Text
import Mathlib.Data.Option.Basic

/-!
# What an ASCII form holds

A domain name in ASCII form holds none of the characters that no domain name may hold: what is
written of its labels are characters of the mapped name, the mark of Punycode and digits.
-/

namespace Courier

/-- Whatever is found in each place comes from a value that was looked at. -/
theorem exists_of_mem_mapM {α β : Type} {find? : α → Option β} {values : List α} {found : List β}
    (all_found : values.mapM find? = some found) :
    ∀ result ∈ found, ∃ value ∈ values, find? value = some result := by
  induction values generalizing found with
  | nil =>
      cases all_found
      simp
  | cons value values induction =>
      rw [List.mapM_cons] at all_found
      obtain ⟨first, first_found, rest_found⟩ := Option.bind_eq_some_iff.mp all_found
      obtain ⟨rest, rest_eq, found_eq⟩ := Option.bind_eq_some_iff.mp rest_found
      cases found_eq
      intro result result_mem
      rcases List.mem_cons.mp result_mem with rfl | in_rest
      · exact ⟨value, by simp, first_found⟩
      · obtain ⟨source, source_mem, source_eq⟩ := induction rest_eq result in_rest
        exact ⟨source, List.mem_cons_of_mem value source_mem, source_eq⟩

theorem mapM_eq_map {α β : Type} {find? : α → Option β} {found : α → β} {values : List α}
    (each : ∀ value ∈ values, find? value = some (found value)) :
    values.mapM find? = some (values.map found) := by
  induction values with
  | nil => rfl
  | cons value rest induction =>
      obtain ⟨here, there⟩ := List.forall_mem_cons.mp each
      rw [List.mapM_cons, here, induction there]
      rfl

/-- What is written of values one by one is read back one by one. -/
theorem mapM_map_eq_self {α β : Type} {read? : β → Option α} {write : α → β} {values : List α}
    (each : ∀ value ∈ values, read? (write value) = some value) :
    (values.map write).mapM read? = some values := by
  induction values with
  | nil => rfl
  | cons value rest induction =>
      obtain ⟨here, there⟩ := List.forall_mem_cons.mp each
      rw [List.map_cons, List.mapM_cons, here, induction there]
      rfl

namespace Idna

/-- None of the characters is one that no domain name may hold. -/
def Permitted (chars : List Char) : Prop := ∀ char ∈ chars, isForbidden char = false

theorem permitted_append {left right : List Char} (left_permitted : Permitted left)
    (right_permitted : Permitted right) : Permitted (left ++ right) :=
  List.forall_mem_append.mpr ⟨left_permitted, right_permitted⟩

/-! ## Punycode -/

namespace Punycode

theorem permitted_digit {value : Nat} (small : value < base) :
    isForbidden (digit value) = false := by
  have all_small : ∀ value ∈ List.range base, isForbidden (digit value) = false := by decide
  exact all_small value (List.mem_range.mpr small)

theorem threshold_le (place bias : Nat) : threshold place bias ≤ 26 := by
  rw [threshold]
  split
  · omega
  · split <;> omega

theorem permitted_writeNumber (bias place value : Nat) :
    Permitted (writeNumber bias place value) := by
  have below := threshold_le place bias
  induction place, value using writeNumber.induct bias with
  | case1 place value threshold ends =>
      rw [writeNumber, if_pos ends]
      intro char char_mem
      rw [List.mem_singleton.mp char_mem]
      exact permitted_digit (by simp only [base]; omega)
  | case2 place value threshold goes_on induction =>
      rw [writeNumber, if_neg goes_on]
      refine List.forall_mem_cons.mpr ⟨permitted_digit ?_, induction (threshold_le _ _)⟩
      have digits_left : 0 < base - Punycode.threshold place bias := by
        rw [base]
        omega
      have := Nat.mod_lt (value - Punycode.threshold place bias) digits_left
      omega

/-- The numbers written so far hold digits alone. -/
def Writing.Digits (writing : Writing) : Prop := ∀ number ∈ writing.numbers, Permitted number

theorem Writing.Digits.pass {writing : Writing} (digits : writing.Digits) (char : Char) :
    (writing.pass char).Digits := by
  rw [Writing.pass]
  split
  · exact digits
  · split
    · exact List.forall_mem_cons.mpr ⟨permitted_writeNumber _ _ _, digits⟩
    · exact digits

theorem Writing.Digits.writeCode {writing : Writing} (digits : writing.Digits)
    (chars : List Char) (code : Nat) : (writing.writeCode chars code).Digits := by
  rw [Writing.writeCode]
  refine List.foldlRecOn chars Writing.pass (motive := Writing.Digits) digits ?_
  intro before before_digits char _
  exact before_digits.pass char

theorem permitted_encode {text written : List Char} (encoded : encode? text = some written)
    (permitted : Permitted text) : Permitted written := by
  rw [encode?] at encoded
  split at encoded
  · simp at encoded
  · cases encoded
    refine permitted_append (permitted_append ?_ ?_) ?_
    · intro char char_mem
      exact permitted char (List.mem_filter.mp char_mem).1
    · split
      · exact nofun
      · simp [Permitted, isForbidden]
    · intro char char_mem
      obtain ⟨number, number_mem, char_in⟩ := List.mem_flatten.mp char_mem
      refine List.foldlRecOn _ (Writing.writeCode text) (motive := Writing.Digits) ?_ ?_ number
        (List.mem_reverse.mp number_mem) char char_in
      · exact nofun
      · intro before before_digits code _
        exact before_digits.writeCode text code

end Punycode

/-! ## Labels and names -/

theorem mem_of_mem_labelTexts {chars text : List Char} (text_mem : text ∈ labelTexts chars) :
    text ⊆ chars := by
  induction chars generalizing text with
  | nil =>
      rw [List.mem_singleton.mp text_mem]
      exact List.Subset.refl _
  | cons char rest induction =>
      rw [labelTexts] at text_mem
      cases labels : labelTexts rest with
      | nil =>
          rw [labels] at text_mem
          rw [List.mem_singleton.mp text_mem]
          simp
      | cons first others =>
          rw [labels] at text_mem induction
          dsimp only at text_mem
          split at text_mem
          · rcases List.mem_cons.mp text_mem with rfl | in_rest
            · exact List.nil_subset _
            · exact List.subset_cons_of_subset char (induction in_rest)
          · rcases List.mem_cons.mp text_mem with rfl | in_others
            · exact List.cons_subset_cons char (induction (List.mem_cons_self ..))
            · exact List.subset_cons_of_subset char
                (induction (List.mem_cons_of_mem first in_others))

theorem permitted_ofText {text : List Char} {label : Label}
    (read : Label.ofText? text = some label) (permitted : Permitted text) :
    Permitted label.ascii := by
  rw [Label.ofText?] at read
  split at read
  · simp only [Option.bind_eq_bind, Option.bind_eq_some_iff] at read
    obtain ⟨_, _, decoded, _, _, _, label_eq⟩ := read
    cases label_eq
    exact permitted
  · split at read
    · cases read
      exact permitted
    · simp only [Option.bind_eq_bind, Option.bind_eq_some_iff] at read
      obtain ⟨_, _, written, encoded, label_eq⟩ := read
      cases label_eq
      refine permitted_append ?_ (Punycode.permitted_encode encoded permitted)
      simp [Permitted, asciiMark, isForbidden]

/-- The ASCII form of a domain name holds no character that no domain name may hold. -/
theorem permitted_toAscii {chars : List Char} {name : String}
    (read : toAscii? chars = some name) : Permitted name.toList := by
  simp only [toAscii?, Option.bind_eq_bind, Option.bind_eq_some_iff] at read
  obtain ⟨mapped, _, _, name_permitted, labels, labels_eq, _, _, name_eq⟩ := read
  cases name_eq
  have permitted : Permitted (Unicode.composed mapped) := by
    simpa [Permitted] using (Option.guard_eq_some' _).mp name_permitted
  refine forall_mem_toList_intercalate ?_ ?_
  · simp [isForbidden]
  · intro part part_mem
    obtain ⟨label, label_mem, rfl⟩ := List.mem_map.mp part_mem
    obtain ⟨text, text_mem, label_read⟩ := exists_of_mem_mapM labels_eq label label_mem
    rw [String.toList_ofList]
    refine permitted_ofText label_read ?_
    intro char char_mem
    exact permitted char (mem_of_mem_labelTexts text_mem char_mem)

end Idna

end Courier
