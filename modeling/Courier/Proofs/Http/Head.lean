import Courier.Http.Outgoing
import Courier.Proofs.Http.Headers
import Courier.Proofs.Text
import Courier.Proofs.Text.Utf8

/-!
# Heads and their fields

What a head says is found in it again, line by line, where no name holds a colon and nothing holds a
line break.  The names of a header map are tokens in lower case, which keep to that.
-/

namespace Courier.Http

/-! ## Names -/

/-- A character of the name of a header, which is a token in lower case. -/
def isNameChar (char : Char) : Bool :=
  !char.isUpper && char.toNat < 128 && Scan.isToken (UInt8.ofNat char.toNat)

def isFieldName (name : String) : Bool := !name.isEmpty && name.toList.all isNameChar

/-- A header map as maps are: every field stands under a name of a header. -/
def Headers.Proper (headers : Headers) : Prop :=
  ∀ entry ∈ headers.entries, isFieldName entry.1 = true

instance (headers : Headers) : Decidable headers.Proper :=
  inferInstanceAs (Decidable (∀ entry ∈ headers.entries, isFieldName entry.1 = true))

theorem toLower_of_not_isUpper {char : Char} (lower : char.isUpper = false) :
    char.toLower = char := dif_neg (of_decide_eq_false lower)

theorem lower_of_isFieldName {name : String} (proper : isFieldName name = true) :
    Ascii.lower name = name := by
  simp only [isFieldName, Bool.and_eq_true, List.all_eq_true] at proper
  have same : ∀ char ∈ name.toList, char.toLower = id char := by
    intro char char_mem
    have lower := proper.2 char char_mem
    simp only [isNameChar, Bool.and_eq_true, Bool.not_eq_true'] at lower
    exact toLower_of_not_isUpper lower.1.1
  rw [Ascii.lower, List.map_congr_left same, List.map_id, String.ofList_toList]

/-- The octets of a name are those of a token. -/
theorem isToken_of_isFieldName {name : String} (proper : isFieldName name = true) :
    ∀ byte ∈ Bytes.ofString name, Scan.isToken byte = true := by
  simp only [isFieldName, Bool.and_eq_true, List.all_eq_true] at proper
  intro byte byte_mem
  obtain ⟨char, char_mem, byte_mem⟩ := List.mem_flatMap.mp byte_mem
  have token := proper.2 char char_mem
  simp only [isNameChar, Bool.and_eq_true, decide_eq_true_eq] at token
  rw [Bytes.utf8EncodeChar_ascii token.1.2, List.mem_singleton] at byte_mem
  rw [byte_mem]
  exact token.2

/-! ## Reading a head -/

/-- A field that can be told from what follows it. -/
structure LegibleField (field : String × Bytes) : Prop where
  named : field.1 ≠ ""
  /-- No colon in the name. -/
  no_colon : (58 : UInt8) ∉ Bytes.ofString field.1
  name_unbroken : Scan.cr ∉ Bytes.ofString field.1
  value_unbroken : Scan.cr ∉ field.2

/-- Fields that can be told apart. -/
def Legible (fields : List (String × Bytes)) : Prop := ∀ field ∈ fields, LegibleField field

theorem eq_of_fieldLine {left right : String × Bytes} {left_rest right_rest : Bytes}
    (left_legible : LegibleField left) (right_legible : LegibleField right)
    (same : Outgoing.fieldLine left ++ left_rest = Outgoing.fieldLine right ++ right_rest) :
    left = right ∧ left_rest = right_rest := by
  have line_eq (field : String × Bytes) (rest : Bytes) : Outgoing.fieldLine field ++ rest =
      Bytes.ofString field.1 ++ 58 :: 32 :: (field.2 ++ Scan.cr :: Scan.lf :: rest) := by
    have separator : Bytes.ofString ": " = [58, 32] := by decide
    simp [Outgoing.fieldLine, Outgoing.newline, separator]
  rw [line_eq, line_eq] at same
  obtain ⟨name_eq, after_eq⟩ :=
    eq_of_first_occurrence left_legible.no_colon right_legible.no_colon same
  obtain ⟨value_eq, rest_eq⟩ := eq_of_first_occurrence left_legible.value_unbroken
    right_legible.value_unbroken (List.cons.inj after_eq).2
  exact ⟨Prod.ext (Bytes.ofString_inj.mp name_eq) value_eq, (List.cons.inj rest_eq).2⟩

/-- A field does not begin with a line break. -/
theorem fieldLine_ne_newline {field : String × Bytes} (legible : LegibleField field)
    (rest : Bytes) : Outgoing.newline ≠ Outgoing.fieldLine field ++ rest := by
  intro same
  cases octets : Bytes.ofString field.1 with
  | nil =>
      have empty : Bytes.ofString field.1 = Bytes.ofString "" := octets
      exact legible.named (Bytes.ofString_inj.mp empty)
  | cons first others =>
      simp only [Outgoing.newline, Outgoing.fieldLine, octets, List.cons_append,
        List.cons.injEq] at same
      apply legible.name_unbroken
      rw [octets, same.1]
      exact List.mem_cons_self

/-- A head says the same to everybody who reads its first line alike. -/
theorem fields_of_headBytes {first : String} {fields others : List (String × Bytes)}
    (legible : Legible fields) (others_legible : Legible others)
    (same : Outgoing.headBytes first ⟨fields⟩ = Outgoing.headBytes first ⟨others⟩) :
    fields = others := by
  simp only [Outgoing.headBytes, List.append_assoc, List.append_cancel_left_eq] at same
  induction fields generalizing others with
  | nil =>
      cases others with
      | nil => rfl
      | cons next more =>
          rw [List.flatMap_nil, List.nil_append, List.flatMap_cons, List.append_assoc] at same
          exact absurd same (fieldLine_ne_newline (others_legible next List.mem_cons_self) _)
  | cons field rest induction =>
      cases others with
      | nil =>
          rw [List.flatMap_nil, List.nil_append, List.flatMap_cons, List.append_assoc] at same
          exact absurd same.symm (fieldLine_ne_newline (legible field List.mem_cons_self) _)
      | cons next more =>
          simp only [List.flatMap_cons, List.append_assoc] at same
          obtain ⟨field_eq, rest_eq⟩ := eq_of_fieldLine (legible field List.mem_cons_self)
            (others_legible next List.mem_cons_self) same
          rw [field_eq, induction (fun field field_mem => legible field (.tail _ field_mem))
            (fun field field_mem => others_legible field (.tail _ field_mem)) rest_eq]

/-! ## Values of several names -/

namespace Headers

variable {headers : Headers} {name : String}

theorem values_ofList_append (fields others : List (String × Bytes)) (name : String) :
    (ofList (fields ++ others)).values name =
      (ofList fields).values name ++ (ofList others).values name := by
  simp [values, ofList]

/-- Fields of a header map are read as they are. -/
theorem ofList_of_proper {fields : List (String × Bytes)}
    (proper : Proper ⟨fields⟩) : ofList fields = ⟨fields⟩ := by
  have kept : fields.map (fun field => (Ascii.lower field.1, field.2)) = fields.map id :=
    List.map_congr_left fun field field_mem => by
      rw [lower_of_isFieldName (proper field field_mem)]
      rfl
  rw [ofList, kept, List.map_id]

/-- What is found under a name after a value has been made the only one of some name. -/
theorem values_insert (lower : Ascii.lower name = name) (value : Bytes) (other : String) :
    (headers.insert name value).values other =
      if other = name then [value] else headers.values other := by
  have self := values_insert_self headers name value
  rw [lower] at self
  split
  · rename_i same
    rw [same, self]
  · rename_i different
    rw [values_insert_of_ne (by rwa [lower])]

theorem values_append_entries (headers other : Headers) (name : String) :
    (Headers.mk (headers.entries ++ other.entries)).values name =
      headers.values name ++ other.values name := by
  simp [values]

theorem values_filter_of_pos (headers : Headers) (name : String) (keeps : String → Bool)
    (kept : keeps name = true) :
    (Headers.mk (headers.entries.filter fun entry => keeps entry.1)).values name =
      headers.values name := by
  rw [values, values, List.filterMap_filter]
  refine List.filterMap_congr fun entry _ => ?_
  by_cases same : entry.1 = name
  · simp [same, kept]
  · simp [same]

theorem values_filter_of_neg (headers : Headers) (name : String) (keeps : String → Bool)
    (dropped : keeps name = false) :
    (Headers.mk (headers.entries.filter fun entry => keeps entry.1)).values name = [] := by
  rw [values, List.filterMap_filter, List.filterMap_eq_nil_iff]
  intro entry _
  by_cases same : entry.1 = name
  · simp [same, dropped]
  · simp [same]

/-- Fields that are added one by one come after all others. -/
theorem foldl_append (headers other : Headers) (proper : other.Proper) :
    other.entries.foldl (fun headers field => headers.append field.1 field.2) headers =
      ⟨headers.entries ++ other.entries⟩ := by
  obtain ⟨fields⟩ := other
  induction fields generalizing headers with
  | nil => simp
  | cons field rest induction =>
      have lower := lower_of_isFieldName (proper field List.mem_cons_self)
      rw [List.foldl_cons, induction (headers.append field.1 field.2) fun entry entry_mem =>
        proper entry (.tail _ entry_mem)]
      simp [append, lower]

/-! ### Maps that are built -/

theorem Proper.append (proper : headers.Proper)
    (name_proper : isFieldName (Ascii.lower name) = true) (value : Bytes) : (headers.append name value).Proper := by
  refine List.forall_mem_append.mpr ⟨proper, ?_⟩
  simpa using name_proper

theorem Proper.insert (proper : headers.Proper)
    (name_proper : isFieldName (Ascii.lower name) = true) (value : Bytes) : (headers.insert name value).Proper :=
  Proper.append (fun entry entry_mem => proper entry (List.mem_filter.mp entry_mem).1) name_proper
    value

end Headers

end Courier.Http
