import Courier.Http.Headers
import Mathlib.Data.List.Basic

/-!
# Values of header names

What is found under a name after a value has been made the only one of its name, and what is left
of headers when all values of a name are dropped.
-/

namespace Courier.Http.Headers

variable {headers : Headers} {name other : String} {value : Bytes}

theorem values_append (headers : Headers) (name other : String) (value : Bytes) :
    (headers.append name value).values other =
      headers.values other ++ if Ascii.lower name = other then [value] else [] := by
  rw [values, append, List.filterMap_append]
  by_cases same : Ascii.lower name = other
  · simp [values, same]
  · simp [values, same]

theorem values_erase_self (headers : Headers) (name : String) :
    (headers.erase name).values name = [] := by
  rw [values, erase, List.filterMap_eq_nil_iff]
  intro entry entry_mem
  have entry_ne : entry.1 ≠ name := by simpa using (List.mem_filter.mp entry_mem).2
  exact if_neg (by simpa using entry_ne)

theorem values_erase_of_ne (other_ne : other ≠ name) :
    (headers.erase name).values other = headers.values other := by
  rw [values, values, erase, List.filterMap_filter]
  apply List.filterMap_congr
  intro entry _
  by_cases same : entry.1 = other
  · simp [same, other_ne]
  · simp [same]

theorem values_insert_self (headers : Headers) (name : String) (value : Bytes) :
    (headers.insert name value).values (Ascii.lower name) = [value] := by
  rw [insert, values_append, values_erase_self, if_pos rfl]
  rfl

theorem values_insert_of_ne (other_ne : other ≠ Ascii.lower name) :
    (headers.insert name value).values other = headers.values other := by
  rw [insert, values_append, values_erase_of_ne other_ne, if_neg other_ne.symm, List.append_nil]

theorem erase_eq_self (unnamed : ∀ entry ∈ headers.entries, entry.1 ≠ name) :
    headers.erase name = headers := by
  have kept : headers.entries.filter (·.1 != name) = headers.entries :=
    List.filter_eq_self.mpr fun entry entry_mem => bne_iff_ne.mpr (unnamed entry entry_mem)
  rw [erase, kept]

theorem erase_append_of_ne (other_ne : other ≠ Ascii.lower name) :
    (headers.append name value).erase other = (headers.erase other).append name value := by
  simp [erase, append, other_ne.symm]

theorem erase_erase (headers : Headers) (name : String) :
    (headers.erase name).erase name = headers.erase name := by
  simp [erase]

theorem erase_comm (headers : Headers) (name other : String) :
    (headers.erase name).erase other = (headers.erase other).erase name := by
  simp [erase, Bool.and_comm]

/-- What is left out later need not have been there before. -/
theorem erase_append_erase (headers : Headers) (name other : String) (value : Bytes) :
    ((headers.erase other).append name value).erase other =
      (headers.append name value).erase other := by
  simp [erase, append]

end Courier.Http.Headers
