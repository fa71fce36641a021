import Courier.Proofs.Pool.Queue.Line

/-!
# The queue of an open slot

Every action of a user keeps the queue of an open slot in order, and lets at most one user obtain a
permit: the first who waits, or a newcomer where nobody waits.  A permit that an action sets free
goes to the first who waits.
-/

namespace Courier.Occupancy

variable {occupancy : Occupancy} {maxConnections maxWaiters id : Nat} {action : Action}

/-- What an action does to an orderly slot and those who are queued there. -/
structure Proceeds (occupancy : Occupancy) (action : Action) : Prop where
  turn : Turn (occupancy.firstPolled action) (occupancy.refused action)
    (occupancy.forsaken action) (occupancy.newlyEntitled action) occupancy.slot.unassigned
    (occupancy.step action).slot.unassigned
  orderly : (occupancy.step action).slot.Orderly
  takesBack : occupancy.Frees action → occupancy.slot.TakesBack (occupancy.step action).slot

theorem nobody_new (entitled_subset : (occupancy.step action).entitled ⊆ occupancy.entitled) :
    occupancy.newlyEntitled action = [] := by
  refine List.filter_eq_nil_iff.mpr fun id id_mem => ?_
  simpa using entitled_subset id_mem

theorem only_one_new {earlier later : List Nat}
    (entitled_eq : (occupancy.step action).entitled = earlier ++ id :: later)
    (is_new : id ∉ occupancy.entitled) (earlier_subset : earlier ⊆ occupancy.entitled)
    (later_subset : later ⊆ occupancy.entitled) : occupancy.newlyEntitled action = [id] := by
  have none_earlier : earlier.filter (· ∉ occupancy.entitled) = [] :=
    List.filter_eq_nil_iff.mpr fun other mem => by simpa using earlier_subset mem
  have none_later : later.filter (· ∉ occupancy.entitled) = [] :=
    List.filter_eq_nil_iff.mpr fun other mem => by simpa using later_subset mem
  rw [newlyEntitled, entitled_eq, List.filter_append,
    List.filter_cons_of_pos (by simpa using is_new), none_earlier, none_later]
  rfl

section Proceeds

variable (no_newcomer : occupancy.firstPolled action = [])
  (none_forsaken : occupancy.forsaken action = [])
include no_newcomer none_forsaken

/-- An action that leaves the queue as it is and entitles nobody. -/
theorem proceeds_quiet (frees_none : ¬occupancy.Frees action)
    (same_unassigned : (occupancy.step action).slot.unassigned = occupancy.slot.unassigned)
    (entitled_subset : (occupancy.step action).entitled ⊆ occupancy.entitled)
    (orderly : (occupancy.step action).slot.Orderly) : occupancy.Proceeds action := by
  refine ⟨?_, orderly, fun frees => absurd frees frees_none⟩
  rw [refused, no_newcomer, none_forsaken, nobody_new entitled_subset, same_unassigned]
  exact .quiet _

/-- A permit goes back to a slot where nobody waits. -/
theorem proceeds_released {assignees : List Nat} (nobody : occupancy.slot.unassigned = [])
    (after_queue : (occupancy.step action).slot.queue = Slot.lineUp assignees [])
    (free : (occupancy.step action).slot.free = occupancy.slot.free + 1)
    (entitled_subset : (occupancy.step action).entitled ⊆ occupancy.entitled) :
    occupancy.Proceeds action := by
  have still_nobody := Slot.unassigned_of_lineUp after_queue
  refine ⟨?_, Slot.orderly_of_lineUp after_queue (.inr rfl),
    fun _ => .idle nobody still_nobody free⟩
  rw [refused, no_newcomer, none_forsaken, nobody_new entitled_subset, nobody, still_nobody]
  exact .quiet _

/-- A permit goes to the first who waits. -/
theorem proceeds_served {assignees : List Nat} {first : Nat} {rest : List Nat}
    (waiting : occupancy.slot.unassigned = first :: rest)
    (after_queue : (occupancy.step action).slot.queue = Slot.lineUp (assignees ++ [first]) rest)
    (none_free : occupancy.slot.free = 0)
    (same_free : (occupancy.step action).slot.free = occupancy.slot.free)
    (assignees_subset : assignees ⊆ occupancy.entitled)
    (holding_subset : (occupancy.step action).holding ⊆ occupancy.entitled)
    (first_new : first ∉ occupancy.entitled) : occupancy.Proceeds action := by
  have after_assignees := Slot.assignees_of_lineUp after_queue
  have after_unassigned := Slot.unassigned_of_lineUp after_queue
  have only_first : occupancy.newlyEntitled action = [first] := by
    refine only_one_new ?_ first_new assignees_subset holding_subset
    rw [entitled, after_assignees, List.append_assoc]
    rfl
  refine ⟨?_, Slot.orderly_of_lineUp after_queue (.inl (same_free.trans none_free)), fun _ => ?_⟩
  · rw [refused, no_newcomer, none_forsaken, only_first, waiting, after_unassigned]
    exact .served first rest
  · refine .next first ?_ ?_ same_free
    · rw [waiting, after_unassigned]
    · simp [after_assignees]

/-- An action gives a permit back to the slot. -/
theorem proceeds_giveBack {slot : Slot} {assignees : List Nat}
    (step_slot : (occupancy.step action).slot = slot.giveBack) (is_open : slot.closed = false)
    (queue_eq : slot.queue = Slot.lineUp assignees occupancy.slot.unassigned)
    (same_free : slot.free = occupancy.slot.free) (orderly : occupancy.slot.Orderly)
    (assignees_subset : assignees ⊆ occupancy.slot.assignees)
    (holding_subset : (occupancy.step action).holding ⊆ occupancy.holding)
    (apart : ∀ id ∈ occupancy.slot.unassigned, id ∉ occupancy.entitled) :
    occupancy.Proceeds action := by
  have assignees_entitled : assignees ⊆ occupancy.entitled :=
    List.subset_append_of_subset_left _ assignees_subset
  have holding_entitled : (occupancy.step action).holding ⊆ occupancy.entitled :=
    List.subset_append_of_subset_right _ holding_subset
  cases waiting : occupancy.slot.unassigned with
  | nil =>
      rw [waiting] at queue_eq
      rw [Slot.giveBack_assigned queue_eq] at step_slot
      have after_queue : (occupancy.step action).slot.queue = Slot.lineUp assignees [] := by
        rw [step_slot]
        exact queue_eq
      refine proceeds_released no_newcomer none_forsaken waiting after_queue ?_ ?_
      · rw [step_slot, ← same_free]
      · rw [entitled, Slot.assignees_of_lineUp after_queue]
        exact List.append_subset.mpr ⟨assignees_entitled, holding_entitled⟩
  | cons first rest =>
      rw [waiting] at queue_eq
      rw [Slot.giveBack_lineUp is_open queue_eq] at step_slot
      refine proceeds_served no_newcomer none_forsaken waiting ?_ ?_ ?_ assignees_entitled
        holding_entitled (apart first (by simp [waiting]))
      · rw [step_slot]
      · exact orderly.none_idle.resolve_right (by simp [waiting])
      · rw [step_slot, ← same_free]

end Proceeds

/-! ## Actions -/

/-- Whoever was never polled, or is queued without a permit, has none. -/
def Apart (occupancy : Occupancy) : Prop :=
  ∀ id ∈ occupancy.started ++ occupancy.slot.unassigned, id ∉ occupancy.entitled

theorem Apart.unassigned (apart : occupancy.Apart) :
    ∀ id ∈ occupancy.slot.unassigned, id ∉ occupancy.entitled :=
  fun id mem => apart id (List.mem_append_right _ mem)

/-- An action of somebody who has nothing to act on. -/
theorem proceeds_nothing (orderly : occupancy.slot.Orderly)
    (step_eq : occupancy.step action = occupancy) (no_newcomer : occupancy.firstPolled action = [])
    (none_forsaken : occupancy.forsaken action = []) (frees_none : ¬occupancy.Frees action) :
    occupancy.Proceeds action := by
  refine proceeds_quiet no_newcomer none_forsaken frees_none ?_ ?_ ?_ <;> rw [step_eq]
  · exact List.Subset.refl _
  · exact orderly

theorem proceeds_start (orderly : occupancy.slot.Orderly) : occupancy.Proceeds .start :=
  proceeds_quiet rfl rfl not_false rfl (List.Subset.refl _) orderly

theorem proceeds_lease (orderly : occupancy.slot.Orderly) (id connection : Nat) :
    occupancy.Proceeds (.lease id connection) := by
  by_cases leases : id ∈ occupancy.holding ∧ connection ∉ occupancy.leased
  · have step_eq : occupancy.step (.lease id connection) =
        { occupancy with
          slot := occupancy.slot.lease id connection
          holding := occupancy.holding.erase id
          leased := connection :: occupancy.leased } := if_pos leases
    refine proceeds_quiet rfl rfl not_false ?_ ?_ ?_ <;> rw [step_eq]
    · rfl
    · exact List.append_subset.mpr ⟨List.subset_append_left ..,
        List.subset_append_of_subset_right _ List.erase_subset⟩
    · exact ⟨orderly.queue_eq, orderly.none_idle⟩
  · exact proceeds_nothing orderly (if_neg leases) rfl rfl not_false

section Open

variable (sound : occupancy.Sound maxConnections maxWaiters) (orderly : occupancy.slot.Orderly)
  (apart : occupancy.Apart) (is_open : occupancy.slot.closed = false)
include sound orderly

theorem queue_perm :
    (occupancy.slot.assignees ++ occupancy.slot.unassigned).Perm occupancy.queued := by
  rw [← orderly.ids]
  exact sound.serves.queue_perm

theorem queue_distinct : (occupancy.slot.assignees ++ occupancy.slot.unassigned).Nodup :=
  (queue_perm sound orderly).nodup_iff.mpr sound.queued_nodup

theorem not_unassigned_of_assigned (assigned : id ∈ occupancy.slot.assignees) :
    id ∉ occupancy.slot.unassigned := fun unassigned =>
  (List.nodup_append.mp (queue_distinct sound orderly)).2.2 id assigned id unassigned rfl

/-- Without a reservation that was assigned a permit the same ones wait. -/
theorem filter_unassigned (assigned : id ∈ occupancy.slot.assignees) :
    occupancy.slot.unassigned.filter (· != id) = occupancy.slot.unassigned := by
  refine List.filter_eq_self.mpr fun other mem => ?_
  have differ : other ≠ id := fun same =>
    not_unassigned_of_assigned sound orderly assigned (same ▸ mem)
  simpa using differ

include apart is_open

theorem proceeds_dropPermit (id : Nat) : occupancy.Proceeds (.dropPermit id) := by
  by_cases holds : id ∈ occupancy.holding
  · have granted : id ∈ occupancy.slot.granted := sound.serves.granted_perm.mem_iff.mpr holds
    have step_eq : occupancy.step (.dropPermit id) =
        { occupancy with
          slot := occupancy.slot.returnPermit id
          holding := occupancy.holding.erase id } := if_pos holds
    have returned : (occupancy.step (.dropPermit id)).slot =
        { occupancy.slot with granted := occupancy.slot.granted.erase id }.giveBack := by
      rw [step_eq]
      exact if_pos (by simpa using granted)
    refine proceeds_giveBack rfl rfl returned is_open orderly.queue_eq rfl orderly
      (List.Subset.refl _) ?_ apart.unassigned
    rw [step_eq]
    exact List.erase_subset
  · exact proceeds_nothing orderly (if_neg holds) rfl rfl holds

theorem proceeds_endLease (connection : Nat) : occupancy.Proceeds (.endLease connection) := by
  by_cases leased : connection ∈ occupancy.leased
  · have live : connection ∈ occupancy.slot.live := sound.serves.live_perm.mem_iff.mpr leased
    have step_eq : occupancy.step (.endLease connection) =
        { occupancy with
          slot := occupancy.slot.endLease connection
          leased := occupancy.leased.erase connection } := if_pos leased
    have ended : (occupancy.step (.endLease connection)).slot =
        { occupancy.slot with
          live := occupancy.slot.live.erase connection
          active := occupancy.slot.active - 1 }.giveBack := by
      rw [step_eq]
      exact if_pos (by simpa using live)
    refine proceeds_giveBack rfl rfl ended is_open orderly.queue_eq rfl orderly
      (List.Subset.refl _) ?_ apart.unassigned
    rw [step_eq]
    exact List.Subset.refl _
  · exact proceeds_nothing orderly (if_neg leased) rfl rfl leased

end Open

/-! ## Polls -/

section Poll

theorem step_first_poll (started : id ∈ occupancy.started) :
    occupancy.step (.poll id) =
      occupancy.afterPoll id (occupancy.slot.reserve id).1 (occupancy.slot.reserve id).2 := by
  rw [step, if_pos (.inl started), pollSlot, if_pos started]

variable (sound : occupancy.Sound maxConnections maxWaiters) (orderly : occupancy.slot.Orderly)
  (apart : occupancy.Apart) (is_open : occupancy.slot.closed = false)

include orderly apart in
/-- A newcomer finds a free permit. -/
theorem proceeds_welcomed (started : id ∈ occupancy.started) (free : 0 < occupancy.slot.free)
    (reserve_eq : occupancy.slot.reserve id =
      ({ occupancy.slot with
          free := occupancy.slot.free - 1, granted := occupancy.slot.granted ++ [id] },
        .granted)) : occupancy.Proceeds (.poll id) := by
  have newcomer : occupancy.firstPolled (.poll id) = [id] := if_pos started
  have nobody : occupancy.slot.unassigned = [] :=
    orderly.none_idle.resolve_left (Nat.ne_of_gt free)
  have step_eq := step_first_poll started
  rw [reserve_eq] at step_eq
  have only_id : occupancy.newlyEntitled (.poll id) = [id] := by
    refine only_one_new ?_ (apart id (List.mem_append_left _ started))
      (List.subset_append_left ..) (List.subset_append_right ..)
    rw [step_eq]
    rfl
  have not_refused : occupancy.refused (.poll id) = [] := by
    simp [refused, newcomer, step_eq, afterPoll]
  have still_nobody : (occupancy.step (.poll id)).slot.unassigned = [] := by
    rw [step_eq]
    exact nobody
  refine ⟨?_, ?_, not_false.elim⟩
  · rw [newcomer, not_refused, only_id, nobody, still_nobody]
    exact .welcomed id
  · rw [step_eq]
    exact ⟨orderly.queue_eq, .inr nobody⟩

include sound orderly apart in
/-- A newcomer finds the queue full. -/
theorem proceeds_refused (started : id ∈ occupancy.started)
    (reserve_eq : occupancy.slot.reserve id = (occupancy.slot, .failed occupancy.slot.exhausted)) :
    occupancy.Proceeds (.poll id) := by
  have newcomer : occupancy.firstPolled (.poll id) = [id] := if_pos started
  have step_eq := step_first_poll started
  rw [reserve_eq] at step_eq
  have not_queued : id ∉ occupancy.queued.erase id := sound.queued_nodup.not_mem_erase
  have not_holding : id ∉ occupancy.holding := fun holds =>
    apart id (List.mem_append_left _ started) (List.mem_append_right _ holds)
  have is_refused : occupancy.refused (.poll id) = [id] := by
    simp [refused, newcomer, step_eq, afterPoll, not_queued, not_holding]
  have entitled_subset : (occupancy.step (.poll id)).entitled ⊆ occupancy.entitled := by
    rw [step_eq]
    exact List.Subset.refl _
  refine ⟨?_, ?_, not_false.elim⟩
  · rw [newcomer, is_refused, nobody_new entitled_subset, step_eq]
    exact .refused id _
  · rw [step_eq]
    exact orderly

include orderly in
/-- A newcomer queues behind the others. -/
theorem proceeds_joined (started : id ∈ occupancy.started) (none_free : occupancy.slot.free = 0)
    (reserve_eq : occupancy.slot.reserve id =
      ({ occupancy.slot with
          queue := occupancy.slot.queue ++ [⟨id, false⟩], waiting := occupancy.slot.waiting + 1 },
        .pending)) : occupancy.Proceeds (.poll id) := by
  have newcomer : occupancy.firstPolled (.poll id) = [id] := if_pos started
  have step_eq := step_first_poll started
  rw [reserve_eq] at step_eq
  have not_refused : occupancy.refused (.poll id) = [] := by
    simp [refused, newcomer, step_eq, afterPoll]
  have after_queue : (occupancy.step (.poll id)).slot.queue =
      Slot.lineUp occupancy.slot.assignees (occupancy.slot.unassigned ++ [id]) := by
    calc
      (occupancy.step (.poll id)).slot.queue = occupancy.slot.queue ++ [⟨id, false⟩] := by
        rw [step_eq]
        rfl
      _ = Slot.lineUp occupancy.slot.assignees (occupancy.slot.unassigned ++ [id]) := by
        rw [orderly.queue_eq]
        simp [Slot.lineUp]
  have entitled_subset : (occupancy.step (.poll id)).entitled ⊆ occupancy.entitled := by
    rw [entitled, Slot.assignees_of_lineUp after_queue, step_eq]
    exact List.Subset.refl _
  refine ⟨?_, Slot.orderly_of_lineUp after_queue (.inl ?_), not_false.elim⟩
  · rw [newcomer, not_refused, nobody_new entitled_subset, Slot.unassigned_of_lineUp after_queue]
    exact .joined id _
  · rw [step_eq]
    exact none_free

include sound orderly apart is_open

theorem proceeds_first_poll (started : id ∈ occupancy.started) :
    occupancy.Proceeds (.poll id) := by
  obtain ⟨closed, _⟩ | ⟨_, free, reserve_eq⟩ | ⟨_, _, _, reserve_eq⟩ |
    ⟨_, none_free, _, reserve_eq⟩ := occupancy.slot.reserve_cases id
  · exact absurd is_open (by simp [closed])
  · exact proceeds_welcomed orderly apart started free reserve_eq
  · exact proceeds_refused sound orderly apart started reserve_eq
  · exact proceeds_joined orderly started none_free reserve_eq

omit apart in
/-- A reservation that is polled again notices its permit, or waits on. -/
theorem proceeds_later_poll (not_started : id ∉ occupancy.started)
    (queued : id ∈ occupancy.queued) : occupancy.Proceeds (.poll id) := by
  have no_newcomer : occupancy.firstPolled (.poll id) = [] := if_neg not_started
  have step_eq : occupancy.step (.poll id) =
      occupancy.afterPoll id (occupancy.slot.poll id).1 (occupancy.slot.poll id).2 := by
    rw [step, if_pos (.inr queued), pollSlot, if_neg not_started]
  obtain ⟨reservation, rfl, found, _, _⟩ :=
    (sound.serves_queued queued).find_reservation sound.queued_distinct
  have mem := List.mem_of_find?_eq_some found
  obtain ⟨closed, _⟩ | ⟨_, has_permit, poll_eq⟩ | ⟨_, _, poll_eq⟩ := Slot.poll_cases found
  · exact absurd is_open (by simp [closed])
  · rw [poll_eq] at step_eq
    have assigned := Slot.mem_assignees mem has_permit
    have after_queue : (occupancy.step (.poll reservation.id)).slot.queue =
        Slot.lineUp (occupancy.slot.assignees.filter (· != reservation.id))
          occupancy.slot.unassigned := by
      rw [step_eq, ← filter_unassigned sound orderly assigned]
      exact orderly.unqueue reservation.id
    refine proceeds_quiet no_newcomer rfl not_false (Slot.unassigned_of_lineUp after_queue) ?_
      (Slot.orderly_of_lineUp after_queue ?_)
    · rw [entitled, Slot.assignees_of_lineUp after_queue, step_eq]
      refine List.append_subset.mpr
        ⟨List.subset_append_of_subset_left _ (List.filter_subset_self _), ?_⟩
      exact List.cons_subset.mpr ⟨List.mem_append_left _ assigned, List.subset_append_right ..⟩
    · rw [step_eq]
      exact orderly.none_idle
  · rw [poll_eq] at step_eq
    refine proceeds_quiet no_newcomer rfl not_false ?_ ?_ ?_ <;> rw [step_eq]
    · rfl
    · exact List.Subset.refl _
    · exact orderly

theorem proceeds_poll (id : Nat) : occupancy.Proceeds (.poll id) := by
  by_cases started : id ∈ occupancy.started
  · exact proceeds_first_poll sound orderly apart is_open started
  · by_cases queued : id ∈ occupancy.queued
    · exact proceeds_later_poll sound orderly is_open started queued
    · have unknown : ¬(id ∈ occupancy.started ∨ id ∈ occupancy.queued) := by
        simp [started, queued]
      exact proceeds_nothing orderly (if_neg unknown) (if_neg started) rfl not_false

end Poll

/-! ## Reservations that are given up -/

section Abandon

variable (sound : occupancy.Sound maxConnections maxWaiters) (orderly : occupancy.slot.Orderly)
include sound orderly

theorem proceeds_unqueued_abandon (not_queued : id ∉ occupancy.queued) :
    occupancy.Proceeds (.abandon id) := by
  have perm := queue_perm sound orderly
  have not_unassigned : id ∉ occupancy.slot.unassigned :=
    fun mem => not_queued (perm.subset (List.mem_append_right _ mem))
  have not_assigned : id ∉ occupancy.slot.assignees :=
    fun mem => not_queued (perm.subset (List.mem_append_left _ mem))
  have none_forsaken : occupancy.forsaken (.abandon id) = [] := if_neg not_unassigned
  by_cases started : id ∈ occupancy.started
  · have step_eq : occupancy.step (.abandon id) =
        { occupancy with started := occupancy.started.erase id } := if_pos started
    refine proceeds_quiet rfl none_forsaken not_assigned ?_ ?_ ?_ <;> rw [step_eq]
    · exact List.Subset.refl _
    · exact orderly
  · have step_eq : occupancy.step (.abandon id) = occupancy := by
      rw [step, if_neg started, if_neg not_queued]
    exact proceeds_nothing orderly step_eq rfl none_forsaken not_assigned

omit orderly in
theorem step_queued_abandon (queued : id ∈ occupancy.queued) :
    occupancy.step (.abandon id) =
      { occupancy with
        slot := occupancy.slot.abandon id
        queued := occupancy.queued.erase id } := by
  rw [step, if_neg fun started => sound.not_queued started queued, if_pos queued]

/-- A reservation that is given up passes on a permit that it was assigned. -/
theorem proceeds_passed_on (apart : occupancy.Apart) (is_open : occupancy.slot.closed = false)
    {reservation : Reservation} (queued : reservation.id ∈ occupancy.queued)
    (found : occupancy.slot.queue.find? (·.id == reservation.id) = some reservation)
    (has_permit : reservation.assigned = true) : occupancy.Proceeds (.abandon reservation.id) := by
  have step_eq := step_queued_abandon sound queued
  have assigned := Slot.mem_assignees (List.mem_of_find?_eq_some found) has_permit
  have not_unassigned := not_unassigned_of_assigned sound orderly assigned
  have step_slot : (occupancy.step (.abandon reservation.id)).slot =
      (occupancy.slot.unqueue reservation.id).giveBack := by
    rw [step_eq]
    exact Slot.abandon_of_assigned found has_permit
  have left_queue := orderly.unqueue reservation.id
  rw [filter_unassigned sound orderly assigned] at left_queue
  refine proceeds_giveBack rfl (if_neg not_unassigned) step_slot is_open left_queue rfl orderly
    (List.filter_subset_self _) ?_ apart.unassigned
  rw [step_eq]
  exact List.Subset.refl _

/-- A reservation that is given up without a permit is passed over. -/
theorem proceeds_forsaken {reservation : Reservation}
    (queued : reservation.id ∈ occupancy.queued)
    (found : occupancy.slot.queue.find? (·.id == reservation.id) = some reservation)
    (no_permit : reservation.assigned = false) : occupancy.Proceeds (.abandon reservation.id) := by
  have step_eq := step_queued_abandon sound queued
  have unassigned := Slot.mem_unassigned (List.mem_of_find?_eq_some found) no_permit
  have not_assigned : reservation.id ∉ occupancy.slot.assignees := fun assigned =>
    not_unassigned_of_assigned sound orderly assigned unassigned
  have step_slot : (occupancy.step (.abandon reservation.id)).slot =
      occupancy.slot.unqueue reservation.id := by
    rw [step_eq]
    exact Slot.abandon_of_unassigned found no_permit
  have after_queue := orderly.unqueue reservation.id
  rw [← step_slot] at after_queue
  have distinct := (List.nodup_append.mp (queue_distinct sound orderly)).2.1
  have after_unassigned : (occupancy.step (.abandon reservation.id)).slot.unassigned =
      occupancy.slot.unassigned.erase reservation.id := by
    rw [Slot.unassigned_of_lineUp after_queue, distinct.erase_eq_filter]
  have no_newcomer : occupancy.firstPolled (.abandon reservation.id) = [] := rfl
  have is_forsaken : occupancy.forsaken (.abandon reservation.id) = [reservation.id] :=
    if_pos unassigned
  have entitled_subset :
      (occupancy.step (.abandon reservation.id)).entitled ⊆ occupancy.entitled := by
    rw [entitled, Slot.assignees_of_lineUp after_queue, step_eq]
    exact List.append_subset.mpr
      ⟨List.subset_append_of_subset_left _ (List.filter_subset_self _),
        List.subset_append_right ..⟩
  have none_free : occupancy.slot.free = 0 :=
    orderly.none_idle.resolve_right (List.ne_nil_of_mem unassigned)
  refine ⟨?_, Slot.orderly_of_lineUp after_queue (.inl ?_),
    fun assigned => absurd assigned not_assigned⟩
  · rw [refused, no_newcomer, is_forsaken, nobody_new entitled_subset, after_unassigned]
    exact .forsaken _ _ unassigned
  · rw [step_slot]
    exact none_free

theorem proceeds_abandon (apart : occupancy.Apart) (is_open : occupancy.slot.closed = false)
    (id : Nat) : occupancy.Proceeds (.abandon id) := by
  by_cases queued : id ∈ occupancy.queued
  · obtain ⟨reservation, rfl, found, _, _⟩ :=
      (sound.serves_queued queued).find_reservation sound.queued_distinct
    cases permit : reservation.assigned with
    | true => exact proceeds_passed_on sound orderly apart is_open queued found permit
    | false => exact proceeds_forsaken sound orderly queued found permit
  · exact proceeds_unqueued_abandon sound orderly queued

end Abandon

/-! ## What an action leaves alone -/

theorem afterPoll_slot (id : Nat) (slot : Slot) (answer : Slot.Answer) :
    (occupancy.afterPoll id slot answer).slot = slot := by
  cases answer <;> rfl

theorem afterPoll_started (id : Nat) (slot : Slot) (answer : Slot.Answer) :
    (occupancy.afterPoll id slot answer).started = occupancy.started.erase id := by
  cases answer <;> rfl

theorem afterPoll_next (id : Nat) (slot : Slot) (answer : Slot.Answer) :
    (occupancy.afterPoll id slot answer).next = occupancy.next := by
  cases answer <;> rfl

theorem step_started (occupancy : Occupancy) (action : Action) :
    (occupancy.step action).started ⊆ occupancy.next :: occupancy.started := by
  cases action with
  | start => exact List.Subset.refl _
  | poll id =>
      rw [step]
      split
      · rw [afterPoll_started]
        exact List.subset_cons_of_subset _ List.erase_subset
      · exact List.subset_cons_self ..
  | abandon id =>
      rw [step]
      split
      · exact List.subset_cons_of_subset _ List.erase_subset
      · split <;> exact List.subset_cons_self ..
  | lease | dropPermit | endLease =>
      rw [step]
      split <;> exact List.subset_cons_self ..
  | close => exact List.subset_cons_self ..

/-- A newcomer has been started and not polled before, and will not be polled for the first time
again. -/
theorem newcomer_started (sound : occupancy.Sound maxConnections maxWaiters)
    (newcomer : id ∈ occupancy.firstPolled action) :
    id ∈ occupancy.started ∧ id ∉ (occupancy.step action).started := by
  cases action with
  | poll other =>
      rw [firstPolled] at newcomer
      split at newcomer
      · rename_i started
        obtain rfl := List.mem_singleton.mp newcomer
        refine ⟨started, ?_⟩
        rw [step_first_poll started, afterPoll_started]
        exact (List.nodup_append.mp sound.distinct).1.not_mem_erase
      · exact absurd newcomer List.not_mem_nil
  | start | abandon | lease | dropPermit | endLease | close =>
      exact absurd newcomer List.not_mem_nil

theorem step_next (occupancy : Occupancy) (action : Action) :
    occupancy.next ≤ (occupancy.step action).next := by
  cases action with
  | start => exact Nat.le_succ _
  | poll id =>
      rw [step]
      split
      · exact Nat.le_of_eq (afterPoll_next _ _ _).symm
      · exact Nat.le_refl _
  | abandon id =>
      rw [step]
      split
      · exact Nat.le_refl _
      · split <;> exact Nat.le_refl _
  | lease | dropPermit | endLease =>
      rw [step]
      split <;> exact Nat.le_refl _
  | close => exact Nat.le_refl _

theorem step_terms (not_close : action ≠ .close) :
    (occupancy.step action).slot.terms = occupancy.slot.terms := by
  cases action with
  | start => rfl
  | poll id =>
      rw [step]
      split
      · have poll_terms : (occupancy.pollSlot id).1.terms = occupancy.slot.terms := by
          rw [pollSlot]
          split
          · exact Slot.reserve_terms _ _
          · exact Slot.poll_terms _ _
        rw [afterPoll_slot, poll_terms]
      · rfl
  | abandon id =>
      rw [step]
      split
      · rfl
      · split
        · exact Slot.abandon_terms _ _
        · rfl
  | lease id connection =>
      rw [step]
      split <;> rfl
  | dropPermit id =>
      rw [step]
      split
      · exact Slot.returnPermit_terms _ _
      · rfl
  | endLease connection =>
      rw [step]
      split
      · exact Slot.endLease_terms _ _
      · rfl
  | close => exact absurd rfl not_close

/-- A slot that is open after an action was open before it. -/
theorem open_of_step (still_open : (occupancy.step action).slot.closed = false) :
    occupancy.slot.closed = false ∧ action ≠ .close := by
  have not_close : action ≠ .close := by
    rintro rfl
    exact absurd still_open (by simp [step, Slot.close])
  exact ⟨(congrArg Slot.Terms.closed (step_terms not_close)).symm.trans still_open, not_close⟩

theorem Sound.proceeds (sound : occupancy.Sound maxConnections maxWaiters)
    (orderly : occupancy.slot.Orderly) (apart : occupancy.Apart)
    (still_open : (occupancy.step action).slot.closed = false) : occupancy.Proceeds action := by
  obtain ⟨is_open, not_close⟩ := open_of_step still_open
  cases action with
  | start => exact proceeds_start orderly
  | poll id => exact proceeds_poll sound orderly apart is_open id
  | abandon id => exact proceeds_abandon sound orderly apart is_open id
  | lease id connection => exact proceeds_lease orderly id connection
  | dropPermit id => exact proceeds_dropPermit sound orderly apart is_open id
  | endLease connection => exact proceeds_endLease sound orderly apart is_open connection
  | close => exact absurd rfl not_close

end Courier.Occupancy
