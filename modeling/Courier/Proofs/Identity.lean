import Mathlib.Algebra.GroupWithZero.Nat
import Mathlib.Data.List.Perm.Basic

/-!
# Lists whose members have identities

In a list whose members have different identities, one member is found by its identity, and
changing or removing it leaves the others alone.
-/

namespace Courier.Identity

variable {α κ : Type} [DecidableEq κ] {identity : α → κ} {list : List α} {member : α}

/-- The members with another identity. -/
def others (identity : α → κ) (list : List α) (id : κ) : List α :=
  list.filter (identity · != id)

theorem ne_of_mem_others {id : κ} (other_mem : member ∈ others identity list id) :
    identity member ≠ id := by
  simpa using (List.mem_filter.mp other_mem).2

theorem mem_of_mem_others {id : κ} (other_mem : member ∈ others identity list id) :
    member ∈ list :=
  List.mem_of_mem_filter other_mem

theorem others_eq_self {id : κ} (absent : ∀ other ∈ list, identity other ≠ id) :
    others identity list id = list := by
  rw [others, List.filter_eq_self]
  intro other other_mem
  simpa using absent other other_mem

/-- A list consists of any one of its members and the others. -/
theorem perm_cons_others (distinct : (list.map identity).Nodup) (mem : member ∈ list) :
    list.Perm (member :: others identity list (identity member)) := by
  induction list with
  | nil => cases mem
  | cons first rest induction =>
      rw [List.map_cons, List.nodup_cons] at distinct
      obtain ⟨first_new, rest_distinct⟩ := distinct
      rcases List.mem_cons.mp mem with rfl | in_rest
      · have absent : ∀ other ∈ rest, identity other ≠ identity member := by
          intro other other_mem same
          exact first_new (List.mem_map.mpr ⟨other, other_mem, same⟩)
        have head_dropped : others identity (member :: rest) (identity member) = rest := by
          rw [others, List.filter_cons_of_neg (by simp)]
          exact others_eq_self absent
        rw [head_dropped]
      · have different : identity first ≠ identity member := fun same =>
          first_new (List.mem_map.mpr ⟨member, in_rest, same.symm⟩)
        rw [others, List.filter_cons_of_pos (by simpa using different)]
        exact ((induction rest_distinct in_rest).cons first).trans (.swap _ _ _)

/-- A member is found by its identity. -/
theorem find_of_mem (distinct : (list.map identity).Nodup) (mem : member ∈ list) :
    list.find? (identity · == identity member) = some member := by
  induction list with
  | nil => cases mem
  | cons first rest induction =>
      rw [List.map_cons, List.nodup_cons] at distinct
      obtain ⟨first_new, rest_distinct⟩ := distinct
      rcases List.mem_cons.mp mem with rfl | in_rest
      · rw [List.find?_cons_of_pos (by simp)]
      · have different : identity first ≠ identity member := fun same =>
          first_new (List.mem_map.mpr ⟨member, in_rest, same.symm⟩)
        rw [List.find?_cons_of_neg (by simpa using different)]
        exact induction rest_distinct in_rest

/-- Two members with one identity are the same. -/
theorem eq_of_identity {other : α} (distinct : (list.map identity).Nodup) (mem : member ∈ list)
    (other_mem : other ∈ list) (same : identity member = identity other) : member = other := by
  have found := find_of_mem distinct mem
  rw [same, find_of_mem distinct other_mem] at found
  exact (Option.some.inj found).symm

/-- What is found by an identity is a member and has it. -/
theorem mem_of_find {id : κ} (found : list.find? (identity · == id) = some member) :
    member ∈ list ∧ identity member = id :=
  ⟨List.mem_of_find?_eq_some found, by simpa using List.find?_some found⟩

/-- Changing the members of an identity changes one member at most. -/
theorem map_perm_cons_others (distinct : (list.map identity).Nodup) (mem : member ∈ list)
    (change : α → α) :
    (list.map fun other => if identity other == identity member then change other else other).Perm
      (change member :: others identity list (identity member)) := by
  refine ((perm_cons_others distinct mem).map _).trans ?_
  rw [List.map_cons, if_pos (by simp)]
  refine List.Perm.cons _ (List.Perm.of_eq ?_)
  refine (List.map_congr_left fun other other_mem => ?_).trans (List.map_id _)
  rw [if_neg (by simpa using ne_of_mem_others other_mem), id]

/-- A change that leaves the only member of an identity as it is changes nothing. -/
theorem map_eq_self (distinct : (list.map identity).Nodup) (mem : member ∈ list)
    {change : α → α} (unchanged : change member = member) :
    (list.map fun other => if identity other == identity member then change other else other) =
      list := by
  refine (List.map_congr_left fun other other_mem => ?_).trans (List.map_id _)
  split
  · rename_i same
    rw [eq_of_identity distinct other_mem mem (eq_of_beq same), unchanged, id]
  · rfl

/-- Those who use the members of a list, counted member by member. -/
theorem sum_users {β : Type} {uses : β → κ} (distinct : (list.map identity).Nodup)
    {users : List β} (found : ∀ user ∈ users, ∃ member ∈ list, identity member = uses user) :
    (list.map fun member => (users.filter (uses · == identity member)).length).sum =
      users.length := by
  induction list generalizing users with
  | nil =>
      cases users with
      | nil => rfl
      | cons user rest =>
          obtain ⟨_, mem, _⟩ := found user List.mem_cons_self
          cases mem
  | cons first rest induction =>
      rw [List.map_cons, List.nodup_cons] at distinct
      obtain ⟨first_new, rest_distinct⟩ := distinct
      have rest_found : ∀ user ∈ users.filter (uses · != identity first),
          ∃ member ∈ rest, identity member = uses user := by
        intro user mem
        obtain ⟨user_mem, elsewhere⟩ := List.mem_filter.mp mem
        obtain ⟨member, member_mem, same⟩ := found user user_mem
        rcases List.mem_cons.mp member_mem with rfl | in_rest
        · simp [same] at elsewhere
        · exact ⟨member, in_rest, same⟩
      have same_users : ∀ member ∈ rest,
          (users.filter (uses · == identity member)).length =
            ((users.filter (uses · != identity first)).filter
              (uses · == identity member)).length := by
        intro member mem
        have different : identity member ≠ identity first := fun same =>
          first_new (List.mem_map.mpr ⟨member, mem, same⟩)
        rw [List.filter_filter]
        refine congrArg List.length (List.filter_congr fun user _ => ?_)
        by_cases here : uses user = identity member <;> simp [here, different]
      rw [List.map_cons, List.sum_cons, List.map_congr_left same_users,
        induction rest_distinct rest_found]
      exact (List.length_eq_length_filter_add _).symm

end Courier.Identity
