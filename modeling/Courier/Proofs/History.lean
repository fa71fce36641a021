import Mathlib.Data.List.Basic

/-!
# Histories

A history lists what has happened, the latest first.  It is grounded in a rule that says what may
happen after what if the rule allows each of its events.
-/

namespace Courier

variable {ε : Type} {allowed : List ε → ε → Prop}

/-- Every event of a history is allowed by what has happened before it. -/
def Grounded (allowed : List ε → ε → Prop) : List ε → Prop
  | [] => True
  | event :: earlier => allowed earlier event ∧ Grounded allowed earlier

theorem Grounded.of_append {later earlier : List ε} {event : ε}
    (grounded : Grounded allowed (later ++ event :: earlier)) : allowed earlier event := by
  induction later with
  | nil => exact grounded.1
  | cons _ later induction => exact induction grounded.2

end Courier
