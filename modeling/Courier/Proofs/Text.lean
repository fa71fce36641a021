/-!
# Texts and their characters

What the characters of a text that is put together have in common.
-/

namespace Courier

theorem named_of_mem (char : Char) {text : String} (char_mem : char ∈ text.toList) :
    text.isEmpty = false := by
  refine Bool.eq_false_iff.mpr ?_
  intro empty
  rw [String.isEmpty_iff.mp empty] at char_mem
  simp at char_mem

theorem isDigit_of_mem_decimal {value : Nat} {char : Char}
    (char_mem : char ∈ Nat.toDigits 10 value) : char.isDigit = true :=
  Nat.isDigit_of_mem_toDigits (by decide) (by decide) char_mem

theorem isDigit_of_mem_toString {value : Nat} {char : Char}
    (char_mem : char ∈ (toString value).toList) : char.isDigit = true := by
  have written : toString value = String.ofList (Nat.toDigits 10 value) := rfl
  rw [written, String.toList_ofList] at char_mem
  exact isDigit_of_mem_decimal char_mem

/-- What holds of the characters of the first code points holds of a character that is one of
them. -/
theorem forall_char_lt {bound : Nat} (holds : Char → Prop)
    (each : ∀ code ∈ List.range bound, holds (Char.ofNat code)) {char : Char}
    (small : char.toNat < bound) : holds char := by
  have found := each char.toNat (List.mem_range.mpr small)
  rwa [Char.ofNat_toNat] at found

variable {holds : Char → Prop}

theorem forall_mem_toList_append {left right : String} (in_left : ∀ char ∈ left.toList, holds char)
    (in_right : ∀ char ∈ right.toList, holds char) :
    ∀ char ∈ (left ++ right).toList, holds char := by
  rw [String.toList_append]
  exact List.forall_mem_append.mpr ⟨in_left, in_right⟩

theorem forall_mem_toList_intercalate {separator : String} {parts : List String}
    (in_separator : ∀ char ∈ separator.toList, holds char)
    (in_parts : ∀ part ∈ parts, ∀ char ∈ part.toList, holds char) :
    ∀ char ∈ (separator.intercalate parts).toList, holds char := by
  induction parts with
  | nil => simp
  | cons part parts induction =>
      have in_part := in_parts part List.mem_cons_self
      have in_rest := induction fun part part_mem => in_parts part (List.mem_cons_of_mem _ part_mem)
      cases parts with
      | nil => simpa using in_part
      | cons next others =>
          rw [String.intercalate_cons_cons]
          exact forall_mem_toList_append (forall_mem_toList_append in_part in_separator) in_rest

/-- A scan that what follows would stop finds the same with it as without it. -/
theorem takeWhile_append_of_head {α : Type} {keeps : α → Bool} {rest : List α}
    (stops : ∀ value ∈ rest.head?, keeps value = false) (values : List α) :
    (values ++ rest).takeWhile keeps = values.takeWhile keeps := by
  induction values with
  | nil =>
      cases rest with
      | nil => rfl
      | cons value more => exact List.takeWhile_cons_of_neg (by simp [stops value rfl])
  | cons value more induction =>
      rw [List.cons_append, List.takeWhile_cons, List.takeWhile_cons, induction]

/-- What is left behind a scan. -/
theorem drop_length_takeWhile {α : Type} (keeps : α → Bool) (values : List α) :
    values.drop (values.takeWhile keeps).length = values.dropWhile keeps := by
  induction values with
  | nil => rfl
  | cons value rest induction =>
      rw [List.takeWhile_cons, List.dropWhile_cons]
      split
      · simpa using induction
      · rfl

/-- A list is divided in one way only at the first occurrence of an element. -/
theorem eq_of_first_occurrence {α : Type} {mark : α} {left right left_rest right_rest : List α}
    (not_left : mark ∉ left) (not_right : mark ∉ right)
    (same : left ++ mark :: left_rest = right ++ mark :: right_rest) :
    left = right ∧ left_rest = right_rest := by
  induction left generalizing right with
  | nil =>
      cases right with
      | nil => exact ⟨rfl, (List.cons.inj same).2⟩
      | cons next more => exact absurd (List.cons.inj same).1 (List.ne_of_not_mem_cons not_right)
  | cons first others induction =>
      cases right with
      | nil =>
          exact absurd (List.cons.inj same).1.symm (List.ne_of_not_mem_cons not_left)
      | cons next more =>
          simp only [List.cons_append, List.cons.injEq] at same
          simp only [List.mem_cons, not_or] at not_left not_right
          obtain ⟨others_eq, rest_eq⟩ := induction not_left.2 not_right.2 same.2
          exact ⟨by rw [same.1, others_eq], rest_eq⟩

end Courier
