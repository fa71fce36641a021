import Courier.Delivery

/-!
# The record of a delivery

What may stand in the record of a delivery after what, and where the connections have got to that
the pool has given.
-/

namespace Courier.Delivery

variable {κ : Type} {earlier : List (Event κ)}

/-- An answer came to the requester: the pool gave it and did not get it back, it arrived on the
context if there is one, and the requester had not given up. -/
structure Received (hasContext : Bool) (earlier : List (Event κ)) (answer : Answer κ) : Prop where
  given : .given answer ∈ earlier
  kept : ∀ other, .returned other ∉ earlier
  published : .published hasContext answer ∈ earlier
  not_cancelled : .cancelled ∉ earlier
  not_forsaken : .forsaken ∉ earlier

/-- A request was given up, or no answer can arrive any more. -/
def Missed (earlier : List (Event κ)) : Prop :=
  .cancelled ∈ earlier ∨ .withdrawn ∈ earlier ∨
    ∃ answer, .refused answer ∈ earlier ∨ .lost answer ∈ earlier

theorem Missed.cons (missed : Missed earlier) (event : Event κ) : Missed (event :: earlier) := by
  rcases missed with cancelled | withdrawn | ⟨answer, refused | lost⟩
  · exact Or.inl (List.mem_cons_of_mem _ cancelled)
  · exact Or.inr (Or.inl (List.mem_cons_of_mem _ withdrawn))
  · exact Or.inr (Or.inr ⟨answer, Or.inl (List.mem_cons_of_mem _ refused)⟩)
  · exact Or.inr (Or.inr ⟨answer, Or.inr (List.mem_cons_of_mem _ lost)⟩)

/-- What justifies an event, given what has happened before.  A requester is told what it has
received, or that the request was abandoned, and the latter only for a reason; an answer arrives
only after the pool has given it and as long as the requester has not given up. -/
def Event.Justified (hasContext : Bool) (earlier : List (Event κ)) : Event κ → Prop
  | .settled (.ok connection) => Received hasContext earlier (.ok connection)
  | .settled (.error error) =>
      Received hasContext earlier (.error error) ∨ error = .abandoned ∧ Missed earlier
  | .published byDriver answer =>
      byDriver = hasContext ∧ .given answer ∈ earlier ∧ .cancelled ∉ earlier ∧
        .forsaken ∉ earlier
  | _ => True

/-- Whether an event neither shows that the requester gives up nor depends on that. -/
def Event.isPlain : Event κ → Bool
  | .cancelled | .forsaken | .returned _ => false
  | _ => true

/-- Every event of a record is justified by those before it. -/
def Justified (hasContext : Bool) (history : List (Event κ)) : Prop :=
  ∀ event earlier, event :: earlier <:+ history → event.Justified hasContext earlier

theorem justified_nil (hasContext : Bool) : Justified hasContext ([] : List (Event κ)) := by
  intro event earlier suffix
  cases List.suffix_nil.mp suffix

theorem Justified.cons {hasContext : Bool} {event : Event κ}
    (justified : Justified hasContext earlier) (next : event.Justified hasContext earlier) :
    Justified hasContext (event :: earlier) := by
  intro other before suffix
  rcases List.suffix_cons_iff.mp suffix with same | suffix
  · cases same
    exact next
  · exact justified other before suffix

/-- An answer that has arrived was given before. -/
theorem Justified.given_of_published {hasContext byDriver : Bool} {answer : Answer κ}
    (justified : Justified hasContext earlier) (published : .published byDriver answer ∈ earlier) :
    .given answer ∈ earlier := by
  obtain ⟨later, before, rfl⟩ := List.mem_iff_append.mp published
  have ⟨_, given, _, _⟩ := justified _ before (List.suffix_append later _)
  exact List.mem_append_right _ (List.mem_cons_of_mem _ given)

/-! ## Where connections have got to -/

/-- Where a connection ends that the pool has given. -/
inductive End where
  /-- The pool has it back. -/
  | returned
  /-- The requester has it. -/
  | received
  /-- Nobody has it. -/
  | dropped
deriving DecidableEq, Repr

/-- The connection that the pool gives. -/
def Event.given? : Event κ → Option κ
  | .given (.ok connection) => some connection
  | _ => none

/-- The connection that comes to an end, with that end. -/
def Event.end? : Event κ → Option (End × κ)
  | .returned (.ok connection) => some (.returned, connection)
  | .settled (.ok connection) => some (.received, connection)
  | .refused (.ok connection) | .lost (.ok connection)
  | .unwanted (.ok connection) | .unread (.ok connection) => some (.dropped, connection)
  | _ => none

/-- The connections that the pool has given. -/
def given (history : List (Event κ)) : List κ := history.filterMap Event.given?

/-- The connections that have come to an end, with their ends. -/
def ends (history : List (Event κ)) : List (End × κ) := history.filterMap Event.end?

/-- The pool gives one connection at most, and it has come to one end or is still carried. -/
structure Accounted (history : List (Event κ)) (carried : Option κ) : Prop where
  at_most_one : (given history).length ≤ 1
  whereabouts : (given history).Perm ((ends history).map Prod.snd ++ carried.toList)

theorem accounted_nil : Accounted ([] : List (Event κ)) none := ⟨Nat.zero_le 1, List.Perm.nil⟩

theorem given_cons_of_none {event : Event κ} (gives : event.given? = none) :
    given (event :: earlier) = given earlier := List.filterMap_cons_none gives

/-- An event that concerns no connection changes no account. -/
theorem Accounted.neutral {carried : Option κ} (accounted : Accounted earlier carried)
    (event : Event κ) (gives : event.given? = none)
    (ends_none : event.end? = none) : Accounted (event :: earlier) carried := by
  refine ⟨?_, ?_⟩
  · rw [given_cons_of_none gives]
    exact accounted.at_most_one
  · rw [given_cons_of_none gives, ends, List.filterMap_cons_none ends_none]
    exact accounted.whereabouts

/-- The first connection that is given is carried at first. -/
theorem Accounted.give {carried : Option κ} (accounted : Accounted earlier carried)
    (first : given earlier = []) (answer : Answer κ) :
    Accounted (.given answer :: earlier) answer.toOption := by
  have nowhere := accounted.whereabouts
  rw [first] at nowhere
  obtain ⟨no_ends, _⟩ := List.append_eq_nil_iff.mp nowhere.nil_eq.symm
  cases answer with
  | error error =>
      have same : given (.given (.error error) :: earlier) = given earlier :=
        given_cons_of_none rfl
      refine ⟨by rw [same, first]; exact Nat.zero_le 1, ?_⟩
      rw [same, first]
      exact List.Perm.of_eq (List.append_eq_nil_iff.mpr ⟨no_ends, rfl⟩).symm
  | ok connection =>
      have more : given (.given (.ok connection) :: earlier) = connection :: given earlier :=
        List.filterMap_cons_some rfl
      refine ⟨by rw [more, first]; exact Nat.le_refl 1, ?_⟩
      rw [more, first]
      exact List.Perm.of_eq (congrArg (· ++ [connection]) no_ends).symm

/-- A connection that was carried comes to an end. -/
theorem Accounted.end {carried : Option κ} (accounted : Accounted earlier carried)
    (event : Event κ) (gives : event.given? = none) (same : event.end?.map Prod.snd = carried) :
    Accounted (event :: earlier) none := by
  refine ⟨by rw [given_cons_of_none gives]; exact accounted.at_most_one, ?_⟩
  have whereabouts := accounted.whereabouts
  rw [given_cons_of_none gives]
  rw [← same] at whereabouts
  cases ended : event.end? with
  | none =>
      rw [ended] at whereabouts
      rw [ends, List.filterMap_cons_none ended]
      exact whereabouts
  | some place =>
      rw [ended] at whereabouts
      rw [ends, List.filterMap_cons_some ended, Option.toList_none, List.append_nil]
      exact whereabouts.trans (List.perm_append_singleton _ _)

/-- Every connection that the pool has given has come to exactly one end. -/
def Concluded (history : List (Event κ)) : Prop :=
  ∀ connection ∈ given history, ∃ place, ends history = [(place, connection)]

theorem Accounted.concluded (accounted : Accounted earlier none) : Concluded earlier := by
  intro connection mem
  obtain ⟨single, same⟩ : ∃ single, given earlier = [single] := by
    have some_given := List.length_pos_of_mem mem
    exact List.length_eq_one_iff.mp (Nat.le_antisymm accounted.at_most_one some_given)
  have whereabouts := accounted.whereabouts
  rw [same, Option.toList_none, List.append_nil] at whereabouts
  rw [same] at mem
  obtain rfl := List.mem_singleton.mp mem
  obtain ⟨⟨place, other⟩, ends_eq, rfl⟩ := List.map_eq_singleton_iff.mp
    (List.perm_singleton.mp whereabouts.symm)
  exact ⟨place, ends_eq⟩

/-- With this event an answer comes to its end, and the requester does not get it. -/
inductive Event.Loses (answer : Answer κ) : Event κ → Prop where
  | returned : Event.Loses answer (.returned answer)
  | refused : Event.Loses answer (.refused answer)
  | lost : Event.Loses answer (.lost answer)
  | unwanted : Event.Loses answer (.unwanted answer)
  | unread : Event.Loses answer (.unread answer)

theorem Accounted.lose {answer : Answer κ} (accounted : Accounted earlier answer.toOption)
    {event : Event κ} (loses : event.Loses answer) : Accounted (event :: earlier) none := by
  cases loses <;> exact accounted.end _ rfl (by cases answer <;> rfl)

theorem Accounted.settle {answer : Answer κ} (accounted : Accounted earlier answer.toOption) :
    Accounted (.settled answer :: earlier) none :=
  accounted.end _ rfl (by cases answer <;> rfl)

end Courier.Delivery
