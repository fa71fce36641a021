import Courier.Proofs.Idna.Domain

/-!
# Plain domain names

A domain name in lower-case ASCII stands for itself, unless a label of it begins as the ASCII form
of another one does: nothing in it is mapped, taken apart or composed, and nothing runs from right
to left.
-/

namespace Courier

namespace Unicode

/-! ## Composition leaves ASCII alone -/

theorem compositions_beyond_ascii : compositions.all (fun entry =>
    128 ≤ entry.second.toNat && 128 ≤ entry.whole.toNat) = true := by decide +kernel

variable {first second char : Char}

theorem compose?_ascii (ascii : second.toNat < 128) : compose? first second = none := by
  have beyond := List.all_eq_true.mp compositions_beyond_ascii
  have no_letters : Hangul.compose? first second = none := by
    have vowel : Hangul.firstVowel = 4449 := rfl
    have trail : Hangul.noTrail = 4519 := rfl
    rw [Hangul.compose?]
    split
    · rename_i syllable
      simp only [Bool.and_eq_true, decide_eq_true_eq] at syllable
      omega
    · split
      · rename_i syllable
        simp only [Bool.and_eq_true, decide_eq_true_eq] at syllable
        omega
      · rfl
  have no_entry : compositions.find? (fun entry =>
      entry.first == first && entry.second == second) = none := by
    refine List.find?_eq_none.mpr fun entry entry_mem => ?_
    have second_beyond := (Bool.and_eq_true_iff.mp (beyond entry entry_mem)).1
    rw [decide_eq_true_eq] at second_beyond
    simp only [Bool.and_eq_true, beq_iff_eq, not_and]
    rintro _ rfl
    omega
  rw [compose?, no_letters, no_entry]
  rfl

theorem parts?_ascii (ascii : char.toNat < 128) : parts? char = none := by
  have beyond := List.all_eq_true.mp compositions_beyond_ascii
  have no_letters : Hangul.letters? char = none := by
    have syllable : Hangul.firstSyllable = 44032 := rfl
    rw [Hangul.letters?]
    split
    · rename_i composed
      simp only [Bool.and_eq_true, decide_eq_true_eq] at composed
      omega
    · rfl
  have no_entry : compositions.find? (·.whole == char) = none := by
    refine List.find?_eq_none.mpr fun entry entry_mem => ?_
    have whole_beyond := (Bool.and_eq_true_iff.mp (beyond entry entry_mem)).2
    rw [decide_eq_true_eq] at whole_beyond
    rw [beq_iff_eq]
    rintro rfl
    omega
  rw [parts?, no_letters, no_entry]
  rfl

/-- Ranges that begin beyond ASCII cover none of it. -/
theorem covers_ascii {ranges : Ranges} (beyond : ranges.all (128 ≤ ·.1) = true)
    (ascii : char.toNat < 128) : ranges.covers char = false := by
  refine List.any_eq_false.mpr fun range range_mem covered => ?_
  have first_beyond := of_decide_eq_true (List.all_eq_true.mp beyond range range_mem)
  have covered := of_decide_eq_true (Bool.and_eq_true_iff.mp covered).1
  omega

theorem isStarter_ascii (ascii : char.toNat < 128) : isStarter char = true := by
  have beyond : combiningClasses.all (fun entry => entry.2.all (128 ≤ ·.1)) = true := by
    decide +kernel
  have no_class : combiningClasses.find? (fun entry => entry.2.covers char) = none := by
    refine List.find?_eq_none.mpr fun entry entry_mem => ?_
    simp [covers_ascii (List.all_eq_true.mp beyond entry entry_mem) ascii]
  rw [isStarter, combiningClass, no_class]
  rfl

variable {chars : List Char}

theorem decompose_ascii (ascii : ∀ char ∈ chars, char.toNat < 128) :
    chars.flatMap (decompose deepest) = chars := by
  induction chars with
  | nil => rfl
  | cons char rest induction =>
      obtain ⟨char_ascii, rest_ascii⟩ := List.forall_mem_cons.mp ascii
      have stays : decompose deepest char = [char] := by
        rw [deepest, decompose, parts?_ascii char_ascii]
      rw [List.flatMap_cons, stays, induction rest_ascii]
      rfl

theorem orderMarks_ascii (ascii : ∀ char ∈ chars, char.toNat < 128) : orderMarks chars = chars := by
  induction chars with
  | nil => rfl
  | cons char rest induction =>
      obtain ⟨char_ascii, rest_ascii⟩ := List.forall_mem_cons.mp ascii
      have starts := isStarter_ascii char_ascii
      rw [orderMarks, List.foldr_cons, ← orderMarks, induction rest_ascii]
      cases rest with
      | nil => rfl
      | cons next more =>
          have next_starts := isStarter_ascii (rest_ascii next List.mem_cons_self)
          rw [placeMark, next_starts]
          simp

theorem composeFrom_ascii (starter : Char) (ascii : ∀ char ∈ chars, char.toNat < 128) :
    composeFrom starter [] chars = starter :: chars := by
  induction chars generalizing starter with
  | nil => rfl
  | cons char rest induction =>
      obtain ⟨char_ascii, rest_ascii⟩ := List.forall_mem_cons.mp ascii
      rw [composeFrom, compose?_ascii char_ascii, isStarter_ascii char_ascii,
        induction char rest_ascii]
      rfl

/-- A text in ASCII is in composed form. -/
theorem composed_ascii (ascii : ∀ char ∈ chars, char.toNat < 128) : composed chars = chars := by
  rw [composed, decompose_ascii ascii, orderMarks_ascii ascii]
  cases chars with
  | nil => rfl
  | cons char rest =>
      obtain ⟨char_ascii, rest_ascii⟩ := List.forall_mem_cons.mp ascii
      rw [composeOrdered, isStarter_ascii char_ascii, composeFrom_ascii char rest_ascii]
      rfl

end Unicode

namespace Idna

/-! ## Names -/

/-- A domain name in lower-case ASCII without a label in Punycode. -/
def isPlain (name : List Char) : Bool :=
  name.all (fun char => isAscii char && !char.isUpper) &&
    (labelTexts name).all (!asciiMark.isPrefixOf ·)

variable {name : List Char}

theorem mapped?_eq_self (kept : ∀ char ∈ name, isAscii char = true ∧ char.isUpper = false) :
    mapped? name = some name := by
  induction name with
  | nil => rfl
  | cons char rest induction =>
      obtain ⟨⟨ascii, lower⟩, rest_kept⟩ := List.forall_mem_cons.mp kept
      have stays : treatment char = .kept := by
        rw [isAscii, decide_eq_true_eq] at ascii
        rw [treatment, if_pos ascii, lower]
        rfl
      rw [mapped?, stays, induction rest_kept]
      rfl

theorem isRightward_ascii {char : Char} (ascii : isAscii char = true) :
    isRightward char = false := by
  have small : char.toNat < 128 := of_decide_eq_true ascii
  have no_letter_like : Unicode.letterLikeMarks.covers char = false :=
    Unicode.covers_ascii (by decide +kernel) small
  have no_mark : Unicode.nonspacingMarks.covers char = false :=
    Unicode.covers_ascii (by decide +kernel) small
  have no_hebrew : Unicode.rightToLeftRanges.covers char = false :=
    Unicode.covers_ascii (by decide +kernel) small
  have no_arabic : Unicode.arabicLetterRanges.covers char = false :=
    Unicode.covers_ascii (by decide +kernel) small
  have no_number : Unicode.arabicNumberRanges.covers char = false :=
    Unicode.covers_ascii (by decide +kernel) small
  simp only [isRightward, Unicode.direction, no_letter_like, no_mark, List.find?_cons, no_hebrew,
    no_arabic, no_number]
  repeat' split
  all_goals simp_all

theorem labelTexts_ne_nil (name : List Char) : labelTexts name ≠ [] := by
  cases name with
  | nil => simp [labelTexts]
  | cons char rest =>
      rw [labelTexts]
      split
      · simp
      · split <;> simp

/-- The labels of a name make up that name. -/
theorem intercalate_labelTexts (name : List Char) : ['.'].intercalate (labelTexts name) = name := by
  induction name with
  | nil => rfl
  | cons char rest induction =>
      obtain ⟨first, others, labels⟩ := List.exists_cons_of_ne_nil (labelTexts_ne_nil rest)
      rw [labels] at induction
      rw [labelTexts, labels]
      dsimp only
      split
      · rename_i dot
        rw [beq_iff_eq] at dot
        rw [List.intercalate_cons_cons, induction, dot]
        rfl
      · cases others with
        | nil =>
            rw [List.intercalate_singleton] at induction ⊢
            rw [induction]
        | cons next more =>
            rw [List.intercalate_cons_cons] at induction ⊢
            rw [List.cons_append, List.cons_append, induction]

/-- A plain name that may be a domain name is its own ASCII form. -/
theorem toAscii?_of_plain (plain : isPlain name = true) (permitted : Permitted name) :
    toAscii? name = some (String.ofList name) := by
  simp only [isPlain, Bool.and_eq_true, List.all_eq_true, Bool.not_eq_true'] at plain
  obtain ⟨kept, unmarked⟩ := plain
  have none_forbidden : name.any isForbidden = false := by
    simpa [Permitted] using permitted
  have within (text : List Char) (text_mem : text ∈ labelTexts name) :
      ∀ char ∈ text, isAscii char = true :=
    fun char char_mem => (kept char (mem_of_mem_labelTexts text_mem char_mem)).1
  have read : (labelTexts name).mapM Label.ofText? =
      some ((labelTexts name).map fun text => ⟨text, text⟩) := by
    refine mapM_eq_map fun text text_mem => ?_
    rw [Label.ofText?, unmarked text text_mem, if_neg (by simp),
      if_pos (List.all_eq_true.mpr (within text text_mem))]
  have one_way : ((labelTexts name).map fun text => (⟨text, text⟩ : Label)).any
      (fun label => label.text.any isRightward) = false := by
    simp only [List.any_map, List.any_eq_false, Function.comp_apply]
    intro text text_mem
    simp only [List.any_eq_true, not_exists, not_and]
    intro char char_mem
    simp [isRightward_ascii (within text text_mem char char_mem)]
  have composed := Unicode.composed_ascii fun char char_mem =>
    of_decide_eq_true (kept char char_mem).1
  have joined : String.intercalate "." ((labelTexts name).map String.ofList) =
      String.ofList name := by
    apply String.toList_inj.mp
    simpa [String.toList_intercalate, Function.comp_def] using intercalate_labelTexts name
  rw [toAscii?, mapped?_eq_self kept]
  simp only [Option.bind_eq_bind, Option.bind_some, composed, none_forbidden, read, one_way]
  simpa [guard, Function.comp_def] using joined

end Idna

end Courier
