import Courier.Proofs.Text.Utf8
import Courier.Proofs.Url.Network
import Mathlib.Data.List.Basic
import Mathlib.Data.List.TakeWhile

/-!
# Paths and queries read back

A path and a query that have been read hold no character that would have to be escaped, and a path
no segment of dots; so they are read as they are written.
-/

namespace Courier.Url

/-! ## Escapes -/

/-- A text that is written as it is. -/
def Settled (set : EscapeSet) (text : List Char) : Prop :=
  ∀ char ∈ text, char.toNat < 128 ∧ set char = false

/-- The characters of escapes. -/
def escapeMarks : List Char := '%' :: (List.range 16).map Ascii.upperHexDigit

theorem mem_escapeMarks {value : Nat} (small : value < 16) :
    Ascii.upperHexDigit value ∈ escapeMarks :=
  List.mem_cons_of_mem _ (List.mem_map_of_mem (List.mem_range.mpr small))

section Escapes

variable {set : EscapeSet} {chars : List Char}

/-- A character is written only where it stands for itself or in an escape. -/
theorem mem_escape {char : Char} (char_mem : char ∈ (escape set chars).toList) :
    (char ∈ chars ∧ char.toNat < 128 ∧ set char = false) ∨ char ∈ escapeMarks := by
  rw [escape, String.toList_ofList] at char_mem
  obtain ⟨source, source_mem, written⟩ := List.mem_flatMap.mp char_mem
  rw [escapeChar] at written
  split at written
  · rename_i kept
    rw [List.mem_singleton.mp written]
    exact .inl ⟨source_mem, by simpa using kept⟩
  · obtain ⟨byte, _, digit⟩ := List.mem_flatMap.mp written
    have octet := byte.toNat_lt
    simp only [escapeByte, List.mem_cons, List.not_mem_nil, or_false] at digit
    rcases digit with rfl | rfl | rfl
    · exact .inr List.mem_cons_self
    · exact .inr (mem_escapeMarks (by omega))
    · exact .inr (mem_escapeMarks (by omega))

theorem settled_escape (spared : Settled set escapeMarks) :
    Settled set (escape set chars).toList := by
  intro char char_mem
  rcases mem_escape char_mem with ⟨_, settled⟩ | mark
  · exact settled
  · exact spared char mark

theorem escape_of_settled (settled : Settled set chars) :
    escape set chars = String.ofList chars := by
  have alone : ∀ char ∈ chars, escapeChar set char = [char] := by
    intro char char_mem
    obtain ⟨ascii, spared⟩ := settled char char_mem
    simp [escapeChar, ascii, spared]
  rw [escape, List.flatMap_congr alone, List.flatMap_singleton']

theorem escape_toList {text : String} (settled : Settled set text.toList) :
    escape set text.toList = text := by
  rw [escape_of_settled settled, String.ofList_toList]

end Escapes

theorem settled_of_all {set : EscapeSet} {text : List Char}
    (each : text.all (fun char => char.toNat < 128 && !set char) = true) : Settled set text := by
  simpa [Settled] using each

theorem settled_path_marks : Settled pathSet escapeMarks := settled_of_all (by decide +kernel)

theorem settled_query_marks : Settled specialQuerySet escapeMarks :=
  settled_of_all (by decide +kernel)

/-- A set that has all blanks leaves none of them. -/
theorem Settled.visible {set : EscapeSet} {text : List Char} (settled : Settled set text)
    (blanks : ∀ code ∈ List.range 33, set (Char.ofNat code) = true) :
    ∀ char ∈ text, isOuterBlank char = false := by
  intro char char_mem
  have spared := (settled char char_mem).2
  refine decide_eq_false fun blank => ?_
  have escaped := forall_char_lt (set · = true) blanks (Nat.lt_succ_of_le blank)
  exact Bool.noConfusion (spared.symm.trans escaped)

theorem pathSet_blank : ∀ code ∈ List.range 33, pathSet (Char.ofNat code) = true := by
  decide +kernel

theorem querySet_blank : ∀ code ∈ List.range 33, specialQuerySet (Char.ofNat code) = true := by
  decide +kernel

/-! ## Segments -/

/-- A segment that is read as it is written. -/
structure Plain (segment : String) : Prop where
  settled : Settled pathSet segment.toList
  within : ∀ char ∈ segment.toList, isSlash .network char = false
  no_dot : isSingleDot segment = false
  no_dots : isDoubleDot segment = false

/-- A path of segments that are read as they are written. -/
def PlainPath (segments : List String) : Prop := ∀ segment ∈ segments, Plain segment

theorem plain_empty : Plain "" :=
  ⟨by simp [Settled], by simp, by decide, by decide⟩

section Segments

variable {segments : List String} {segment : List Char} {written : String}

theorem PlainPath.append {others : List String} (path : PlainPath segments)
    (others_plain : PlainPath others) : PlainPath (segments ++ others) :=
  List.forall_mem_append.mpr ⟨path, others_plain⟩

theorem plainPath_singleton (plain : Plain written) : PlainPath [written] := by
  simpa [PlainPath] using plain

theorem not_slash_of_mark : ∀ mark ∈ escapeMarks, isSlash .network mark = false := by
  have each : escapeMarks.all (!isSlash .network ·) = true := by decide +kernel
  simpa using List.all_eq_true.mp each

/-- A path stays plain with another segment, whatever that is. -/
theorem plainPath_addSegment (path : PlainPath segments)
    (within : ∀ char ∈ segment, isSlash .network char = false) (slashFollows : Bool) :
    PlainPath (addSegment .network segments segment slashFollows) := by
  have left : PlainPath (if slashFollows then [] else [""]) := by
    cases slashFollows with
    | false => exact plainPath_singleton plain_empty
    | true => simp [PlainPath]
  rw [addSegment]
  split
  · have kept := (List.dropLast_sublist segments).subset
    exact PlainPath.append (fun part part_mem => path part (kept part_mem)) left
  · rename_i no_dots
    split
    · exact path.append left
    · rename_i no_dot
      refine path.append (plainPath_singleton
        ⟨settled_escape settled_path_marks, ?_, Bool.eq_false_iff.mpr no_dot,
          Bool.eq_false_iff.mpr no_dots⟩)
      intro char char_mem
      rcases mem_escape char_mem with ⟨source, _⟩ | mark
      · exact within char source
      · exact not_slash_of_mark char mark

/-- Segments that are read are plain. -/
theorem plainPath_readSegments (chars : List Char) (path : PlainPath segments)
    (within : ∀ char ∈ segment, isSlash .network char = false) :
    PlainPath (readSegments .network segments segment chars).1 := by
  induction chars generalizing segments segment with
  | nil =>
      rw [readSegments]
      dsimp only
      exact plainPath_addSegment path (by simpa using within) false
  | cons char rest induction =>
      rw [readSegments]
      split
      · exact induction (plainPath_addSegment path (by simpa using within) true) (by simp)
      · rename_i not_slash
        split
        · dsimp only
          exact plainPath_addSegment path (by simpa using within) false
        · have longer : ∀ next ∈ char :: segment, isSlash .network next = false :=
            List.forall_mem_cons.mpr ⟨Bool.eq_false_iff.mpr not_slash, within⟩
          exact induction path longer

theorem plainPath_readPath (chars : List Char) : PlainPath (readPath .network [] chars).1 := by
  have none_yet : PlainPath [] := by simp [PlainPath]
  rw [readPath.eq_def]
  split
  · exact plainPath_readSegments [] none_yet (by simp)
  · split
    · exact plainPath_readSegments _ none_yet (by simp)
    · exact plainPath_readSegments _ none_yet (by simp)

/-! ### Reading back -/

/-- A plain segment is added as it is. -/
theorem addSegment_plain (plain : Plain written) (slashFollows : Bool) :
    addSegment .network segments written.toList slashFollows = segments ++ [written] := by
  rw [addSegment, escape_toList plain.settled]
  simp [plain.no_dot, plain.no_dots]

theorem Plain.unmarked (plain : Plain written) :
    ∀ char ∈ written.toList, char ≠ '?' ∧ char ≠ '#' := by
  intro char char_mem
  have spared := (plain.settled char char_mem).2
  constructor
  · rintro rfl
    exact absurd spared (by decide)
  · rintro rfl
    exact absurd spared (by decide)

/-- The characters of a segment are gathered up to its end. -/
theorem readSegments_within {chars : List Char}
    (within : ∀ char ∈ chars, isSlash .network char = false)
    (unmarked : ∀ char ∈ chars, char ≠ '?' ∧ char ≠ '#') (rest : List Char) :
    readSegments .network segments segment (chars ++ rest) =
      readSegments .network segments (chars.reverse ++ segment) rest := by
  induction chars generalizing segment with
  | nil => rfl
  | cons char more induction =>
      obtain ⟨not_slash, within⟩ := List.forall_mem_cons.mp within
      obtain ⟨⟨not_question, not_sign⟩, unmarked⟩ := List.forall_mem_cons.mp unmarked
      rw [List.cons_append, readSegments, not_slash, if_neg (by simp),
        if_neg (by simp [not_question, not_sign]), induction within unmarked]
      simp

/-- A text that may follow a path. -/
def EndsPath (rest : List Char) : Prop := ∀ char ∈ rest.head?, char = '?'

theorem readSegments_end {rest : List Char} (ends : EndsPath rest) :
    readSegments .network segments segment rest =
      (addSegment .network segments segment.reverse false, rest) := by
  cases rest with
  | nil => rfl
  | cons char more =>
      obtain rfl := ends char rfl
      simp [readSegments, isSlash]

/-- A path in writing. -/
def writtenPath (segments : List String) : List Char :=
  segments.flatMap fun segment => '/' :: segment.toList

theorem toList_pathText (segments : List String) :
    (Path.segments segments).text.toList = writtenPath segments := by
  simp [Path.text, writtenPath, List.flatMap_def, Function.comp_def]

/-- Plain segments are read as they are written. -/
theorem readSegments_written {others : List String} {rest : List Char} (plain : Plain written)
    (others_plain : PlainPath others) (ends : EndsPath rest) :
    readSegments .network segments [] (written.toList ++ (writtenPath others ++ rest)) =
      (segments ++ written :: others, rest) := by
  induction others generalizing segments written with
  | nil =>
      rw [readSegments_within plain.within plain.unmarked]
      simp [writtenPath, readSegments_end ends, addSegment_plain plain]
  | cons next others induction =>
      obtain ⟨next_plain, others_plain⟩ := List.forall_mem_cons.mp others_plain
      have opened : writtenPath (next :: others) ++ rest =
          '/' :: (next.toList ++ (writtenPath others ++ rest)) := by
        simp [writtenPath]
      have closed : readSegments .network segments written.toList.reverse
          ('/' :: (next.toList ++ (writtenPath others ++ rest))) =
            readSegments .network (segments ++ [written]) []
              (next.toList ++ (writtenPath others ++ rest)) := by
        simp [readSegments, isSlash, addSegment_plain plain]
      rw [readSegments_within plain.within plain.unmarked, List.append_nil, opened, closed,
        induction next_plain others_plain]
      simp

/-- A plain path is read as it is written. -/
theorem readPathStart_written {rest : List Char} (some_segment : segments ≠ [])
    (path : PlainPath segments) (ends : EndsPath rest) :
    readPathStart .network (writtenPath segments ++ rest) = (segments, rest) := by
  obtain ⟨first, others, rfl⟩ := List.exists_cons_of_ne_nil some_segment
  obtain ⟨first_plain, others_plain⟩ := List.forall_mem_cons.mp path
  have opened : writtenPath (first :: others) ++ rest =
      '/' :: (first.toList ++ (writtenPath others ++ rest)) := by
    simp [writtenPath]
  rw [opened]
  exact readSegments_written first_plain others_plain ends

end Segments

/-! ## Queries -/

/-- A query in writing. -/
def writtenQuery : Option String → List Char
  | none => []
  | some query => '?' :: query.toList

theorem toList_target {url : Url} {segments : List String}
    (path_eq : url.path = .segments segments) :
    url.target.toList = writtenPath segments ++ writtenQuery url.query := by
  have path_text : url.pathText.toList = writtenPath segments := by
    rw [pathText, path_eq, toList_pathText]
  rw [target.eq_def]
  split
  · rename_i query_eq
    simp [query_eq, writtenQuery, path_text]
  · rename_i query_eq
    simp [query_eq, writtenQuery, path_text]

theorem endsPath_writtenQuery (query : Option String) : EndsPath (writtenQuery query) := by
  cases query <;> simp [EndsPath, writtenQuery]

/-- The query that is read is settled. -/
theorem settled_readTail (chars : List Char) :
    ∀ query ∈ (readTail .network chars).1, Settled specialQuerySet query.toList := by
  intro query query_mem
  rw [readTail.eq_def] at query_mem
  dsimp only at query_mem
  split at query_mem
  · cases query_mem
    exact settled_escape settled_query_marks
  · cases query_mem
  · cases query_mem

/-- A settled query is read as it is written. -/
theorem readTail_written {query : Option String}
    (settled : ∀ text ∈ query, Settled specialQuerySet text.toList) :
    readTail .network (writtenQuery query) = (query, none) := by
  cases query with
  | none => rfl
  | some text =>
      have settled := settled text rfl
      have unmarked : ∀ char ∈ text.toList, (char != '#') = true := by
        intro char char_mem
        rw [bne_iff_ne]
        rintro rfl
        exact absurd (settled '#' char_mem).2 (by decide)
      have kept := List.takeWhile_eq_self_iff.mpr unmarked
      have nothing_left := List.dropWhile_eq_nil_iff.mpr unmarked
      simp [readTail, writtenQuery, kept, nothing_left, SchemeKind.isSpecial,
        escape_toList settled]

end Courier.Url
