import Courier.Pool.Slot
import Courier.Proofs.Identity

/-!
# Whom a slot serves

Three lists say whom a slot serves: the reservations in its queue, those that hold a permit, and
the connections with a lease.  Every operation of a slot moves one member of one list, and no
permit is ever lost: the free ones, the assigned ones and those held by the last two lists add up
to the number the slot was made with.
-/

namespace Courier.Slot

/-- What no reservation, permit or lease changes about a slot. -/
structure Terms where
  /-- The endpoint. -/
  endpoint : Endpoint
  maxConnections : Nat
  /-- Greatest number of reservations that may wait. -/
  maxWaiters : Nat
  /-- Whether the slot refuses further reservations. -/
  closed : Bool

/-- The terms of a slot. -/
def terms (slot : Slot) : Terms :=
  ⟨slot.endpoint, slot.maxConnections, slot.maxWaiters, slot.closed⟩

/-- Number of permits assigned to reservations that have not noticed. -/
def assigned (slot : Slot) : Nat := slot.queue.countP (·.assigned)

/-- A slot serves exactly the reservations in its queue, the holders of its permits and the
connections with a lease that three lists name. -/
structure Serves (slot : Slot) (queued holding leased : List Nat) : Prop where
  /-- No permit is lost. -/
  balance :
    slot.free + slot.assigned + slot.granted.length + slot.live.length = slot.maxConnections
  /-- Every reservation in the queue is counted as waiting. -/
  waiting_eq : slot.waiting = slot.queue.length
  /-- The queue is bounded. -/
  waiting_le : slot.waiting ≤ slot.maxWaiters
  /-- Every lease is counted as an open connection. -/
  active_eq : slot.active = slot.live.length
  queue_perm : (slot.queue.map (·.id)).Perm queued
  granted_perm : slot.granted.Perm holding
  live_perm : slot.live.Perm leased

/-! ## Giving a permit back -/

theorem ids_of_assignFirst {queue changed : List Reservation}
    (found : assignFirst queue = some changed) :
    changed.map (·.id) = queue.map (·.id) := by
  induction queue generalizing changed with
  | nil => cases found
  | cons first rest induction =>
      rw [assignFirst] at found
      split at found
      · obtain ⟨tail, tail_found, rfl⟩ := Option.map_eq_some_iff.mp found
        rw [List.map_cons, List.map_cons, induction tail_found]
      · obtain rfl := Option.some.inj found
        rfl

theorem assigned_of_assignFirst {queue changed : List Reservation}
    (found : assignFirst queue = some changed) :
    changed.countP (·.assigned) = queue.countP (·.assigned) + 1 := by
  induction queue generalizing changed with
  | nil => cases found
  | cons first rest induction =>
      rw [assignFirst] at found
      split at found
      · rename_i first_assigned
        obtain ⟨tail, tail_found, rfl⟩ := Option.map_eq_some_iff.mp found
        rw [List.countP_cons_of_pos first_assigned, List.countP_cons_of_pos first_assigned,
          induction tail_found]
      · rename_i first_unassigned
        obtain rfl := Option.some.inj found
        rw [List.countP_cons_of_pos rfl, List.countP_cons_of_neg first_unassigned]

/-- A permit that is given back goes to one waiting reservation or to nobody. -/
theorem giveBack_cases (slot : Slot) :
    slot.giveBack = { slot with free := slot.free + 1 } ∨
      ∃ queue, assignFirst slot.queue = some queue ∧ slot.giveBack = { slot with queue } := by
  rw [giveBack]
  split
  · rename_i queue found
    split at found
    · cases found
    · exact Or.inr ⟨queue, found, rfl⟩
  · exact Or.inl rfl

@[simp]
theorem giveBack_terms (slot : Slot) : slot.giveBack.terms = slot.terms := by
  obtain equation | ⟨queue, _, equation⟩ := slot.giveBack_cases <;> rw [equation] <;> rfl

/-- A slot that misses one permit serves the same lists once the permit is given back. -/
theorem Serves.giveBack {slot : Slot} {queued holding leased : List Nat}
    (missing : slot.free + slot.assigned + slot.granted.length + slot.live.length + 1 =
      slot.maxConnections)
    (waiting_eq : slot.waiting = slot.queue.length)
    (waiting_le : slot.waiting ≤ slot.maxWaiters)
    (active_eq : slot.active = slot.live.length)
    (queue_perm : (slot.queue.map (·.id)).Perm queued)
    (granted_perm : slot.granted.Perm holding) (live_perm : slot.live.Perm leased) :
    slot.giveBack.Serves queued holding leased := by
  obtain equation | ⟨queue, found, equation⟩ := slot.giveBack_cases
  · rw [equation]
    refine ⟨?_, waiting_eq, waiting_le, active_eq, queue_perm, granted_perm, live_perm⟩
    simp only [assigned] at missing ⊢
    omega
  · have ids := ids_of_assignFirst found
    have more := assigned_of_assignFirst found
    have same_length : queue.length = slot.queue.length := by
      simpa using congrArg List.length ids
    rw [equation]
    refine ⟨?_, ?_, waiting_le, active_eq, ?_, granted_perm, live_perm⟩
    · simp only [assigned] at missing ⊢
      omega
    · rw [waiting_eq, same_length]
    · rw [ids]
      exact queue_perm

/-! ## Reservations -/

theorem create_serves (endpoint : Endpoint) (maxConnections maxWaiters : Nat) :
    (create endpoint maxConnections maxWaiters).Serves [] [] [] :=
  ⟨rfl, rfl, Nat.zero_le _, rfl, .nil, .nil, .nil⟩

/-- The four outcomes of a first poll. -/
theorem reserve_cases (slot : Slot) (id : Nat) :
    (slot.closed = true ∧ slot.reserve id = (slot, .failed .poolClosed)) ∨
      (slot.closed = false ∧ 0 < slot.free ∧
        slot.reserve id =
          ({ slot with free := slot.free - 1, granted := slot.granted ++ [id] }, .granted)) ∨
      (slot.closed = false ∧ slot.free = 0 ∧ slot.maxWaiters ≤ slot.waiting ∧
        slot.reserve id = (slot, .failed slot.exhausted)) ∨
      (slot.closed = false ∧ slot.free = 0 ∧ slot.waiting < slot.maxWaiters ∧
        slot.reserve id =
          ({ slot with queue := slot.queue ++ [⟨id, false⟩], waiting := slot.waiting + 1 },
            .pending)) := by
  rw [reserve]
  cases closed : slot.closed with
  | true => exact Or.inl ⟨rfl, rfl⟩
  | false =>
      by_cases free : slot.free > 0
      · exact Or.inr (Or.inl ⟨rfl, free, by rw [if_neg Bool.false_ne_true, if_pos free]⟩)
      · have none_free : slot.free = 0 := by omega
        rw [if_neg Bool.false_ne_true, if_neg free]
        by_cases full : slot.waiting ≥ slot.maxWaiters
        · exact Or.inr (Or.inr (Or.inl ⟨rfl, none_free, full, by rw [if_pos full]⟩))
        · exact Or.inr (Or.inr (Or.inr ⟨rfl, none_free, by omega, by rw [if_neg full]⟩))

@[simp]
theorem reserve_terms (slot : Slot) (id : Nat) : (slot.reserve id).1.terms = slot.terms := by
  obtain ⟨_, equation⟩ | ⟨_, _, equation⟩ | ⟨_, _, _, equation⟩ | ⟨_, _, _, equation⟩ :=
    slot.reserve_cases id <;> rw [equation] <;> rfl

/-- The lists that a slot serves after a reservation was polled. -/
def AfterPoll (slot : Slot) (id : Nat) (queued holding leased : List Nat) : Answer → Prop
  | .granted => slot.Serves queued (id :: holding) leased
  | .pending => slot.Serves (id :: queued) holding leased
  | .failed _ => slot.Serves queued holding leased

theorem Serves.reserve {slot : Slot} {queued holding leased : List Nat}
    (serves : slot.Serves queued holding leased) (id : Nat) :
    (slot.reserve id).1.AfterPoll id queued holding leased (slot.reserve id).2 := by
  obtain ⟨balance, waiting_eq, waiting_le, active_eq, queue_perm, granted_perm, live_perm⟩ :=
    serves
  obtain ⟨_, equation⟩ | ⟨_, free, equation⟩ | ⟨_, _, _, equation⟩ | ⟨_, _, room, equation⟩ :=
    slot.reserve_cases id
  · rw [equation]
    exact ⟨balance, waiting_eq, waiting_le, active_eq, queue_perm, granted_perm, live_perm⟩
  · rw [equation]
    refine ⟨?_, waiting_eq, waiting_le, active_eq, queue_perm, ?_, live_perm⟩
    · simp only [assigned, List.length_append, List.length_singleton] at balance ⊢
      omega
    · exact (List.perm_append_singleton id slot.granted).trans (granted_perm.cons id)
  · rw [equation]
    exact ⟨balance, waiting_eq, waiting_le, active_eq, queue_perm, granted_perm, live_perm⟩
  · rw [equation]
    refine ⟨?_, ?_, room, active_eq, ?_, granted_perm, live_perm⟩
    · simp only [assigned, List.countP_append] at balance ⊢
      simpa using balance
    · simp [waiting_eq]
    · rw [List.map_append]
      exact (List.perm_append_singleton id _).trans (queue_perm.cons id)

/-! ## Leaving the queue -/

/-- A reservation that is in the queue is found there, and the others stay when it leaves. -/
theorem Serves.find_reservation {slot : Slot} {id : Nat} {queued holding leased : List Nat}
    (serves : slot.Serves (id :: queued) holding leased) (distinct : (id :: queued).Nodup) :
    ∃ reservation, reservation.id = id ∧
      slot.queue.find? (·.id == id) = some reservation ∧
      slot.queue.Perm (reservation :: slot.queue.filter (·.id != id)) ∧
      ((slot.queue.filter (·.id != id)).map (·.id)).Perm queued := by
  have ids_distinct : (slot.queue.map (·.id)).Nodup := serves.queue_perm.nodup_iff.mpr distinct
  have id_mem : id ∈ slot.queue.map (·.id) := serves.queue_perm.mem_iff.mpr List.mem_cons_self
  obtain ⟨reservation, mem, rfl⟩ := List.mem_map.mp id_mem
  have split := Identity.perm_cons_others ids_distinct mem
  refine ⟨reservation, rfl, Identity.find_of_mem ids_distinct mem, split, ?_⟩
  have ids := (split.map (·.id)).symm.trans serves.queue_perm
  rw [List.map_cons] at ids
  exact ids.cons_inv

/-- A reservation that leaves the queue takes its permit along, or has none. -/
theorem Serves.unqueue {slot : Slot} {reservation : Reservation}
    {queued holding leased : List Nat}
    (serves : slot.Serves (reservation.id :: queued) holding leased)
    (split : slot.queue.Perm (reservation :: slot.queue.filter (·.id != reservation.id))) :
    (slot.unqueue reservation.id).free + (slot.unqueue reservation.id).assigned +
          (if reservation.assigned then 1 else 0) + slot.granted.length + slot.live.length =
        slot.maxConnections ∧
      (slot.unqueue reservation.id).waiting = (slot.unqueue reservation.id).queue.length ∧
      (slot.unqueue reservation.id).waiting ≤ slot.maxWaiters := by
  have count := split.countP_eq (·.assigned)
  rw [List.countP_cons] at count
  have length := split.length_eq
  rw [List.length_cons] at length
  have balance := serves.balance
  have waiting_eq := serves.waiting_eq
  have waiting_le := serves.waiting_le
  simp only [Slot.unqueue, assigned] at balance ⊢
  omega

/-- A reservation that leaves the queue without a permit of its own gives an assigned one back. -/
theorem Serves.giveBackAssigned {slot : Slot} {id : Nat} {queued holding leased : List Nat}
    (serves : slot.Serves (id :: queued) holding leased) (distinct : (id :: queued).Nodup)
    {reservation : Reservation}
    (found : slot.queue.find? (·.id == id) = some reservation) :
    ((slot.unqueue id).giveBackAssigned reservation).Serves queued holding leased := by
  obtain ⟨same, rfl, same_found, split, ids⟩ := serves.find_reservation distinct
  obtain rfl := Option.some.inj (found.symm.trans same_found)
  obtain ⟨balance, waiting_eq, waiting_le⟩ := serves.unqueue split
  rw [Slot.giveBackAssigned]
  split
  · rename_i has_permit
    rw [if_pos has_permit] at balance
    exact .giveBack (by simp only [Slot.unqueue] at balance ⊢; omega) waiting_eq waiting_le
      serves.active_eq ids serves.granted_perm serves.live_perm
  · rename_i no_permit
    rw [if_neg no_permit] at balance
    exact ⟨balance, waiting_eq, waiting_le, serves.active_eq, ids, serves.granted_perm,
      serves.live_perm⟩

@[simp]
theorem giveBackAssigned_terms (slot : Slot) (reservation : Reservation) :
    (slot.giveBackAssigned reservation).terms = slot.terms := by
  rw [giveBackAssigned]
  split
  · exact slot.giveBack_terms
  · rfl

/-- The outcomes of a later poll of a reservation in the queue. -/
theorem poll_cases {slot : Slot} {id : Nat} {reservation : Reservation}
    (found : slot.queue.find? (·.id == id) = some reservation) :
    (slot.closed = true ∧
        slot.poll id = ((slot.unqueue id).giveBackAssigned reservation, .failed .poolClosed)) ∨
      (slot.closed = false ∧ reservation.assigned = true ∧
        slot.poll id =
          ({ slot.unqueue id with granted := slot.granted ++ [id] }, .granted)) ∨
      (slot.closed = false ∧ reservation.assigned = false ∧ slot.poll id = (slot, .pending)) := by
  rw [poll, found]
  cases closed : slot.closed with
  | true => exact Or.inl ⟨rfl, by simp⟩
  | false =>
      cases has_permit : reservation.assigned with
      | true => exact Or.inr (Or.inl ⟨rfl, rfl, by simp [has_permit, unqueue]⟩)
      | false => exact Or.inr (Or.inr ⟨rfl, rfl, by simp [has_permit]⟩)

@[simp]
theorem poll_terms (slot : Slot) (id : Nat) : (slot.poll id).1.terms = slot.terms := by
  cases found : slot.queue.find? (·.id == id) with
  | none => rw [poll, found]
  | some reservation =>
      obtain ⟨_, equation⟩ | ⟨_, _, equation⟩ | ⟨_, _, equation⟩ := poll_cases found <;>
        rw [equation]
      · rw [giveBackAssigned_terms]
        rfl
      · rfl

theorem Serves.poll {slot : Slot} {id : Nat} {queued holding leased : List Nat}
    (serves : slot.Serves (id :: queued) holding leased) (distinct : (id :: queued).Nodup) :
    (slot.poll id).1.AfterPoll id queued holding leased (slot.poll id).2 := by
  obtain ⟨reservation, rfl, found, split, ids⟩ := serves.find_reservation distinct
  obtain ⟨_, equation⟩ | ⟨_, has_permit, equation⟩ | ⟨_, _, equation⟩ := poll_cases found
  · rw [equation]
    exact serves.giveBackAssigned distinct found
  · obtain ⟨balance, waiting_eq, waiting_le⟩ := serves.unqueue split
    rw [equation]
    refine ⟨?_, waiting_eq, waiting_le, serves.active_eq, ids, ?_, serves.live_perm⟩
    · rw [if_pos has_permit] at balance
      simp only [Slot.unqueue, assigned, List.length_append, List.length_singleton] at balance ⊢
      omega
    · exact (List.perm_append_singleton _ _).trans (serves.granted_perm.cons _)
  · rw [equation]
    exact serves

theorem Serves.abandon {slot : Slot} {id : Nat} {queued holding leased : List Nat}
    (serves : slot.Serves (id :: queued) holding leased) (distinct : (id :: queued).Nodup) :
    (slot.abandon id).Serves queued holding leased := by
  obtain ⟨reservation, _, found, _, _⟩ := serves.find_reservation distinct
  rw [Slot.abandon, found]
  exact serves.giveBackAssigned distinct found

@[simp]
theorem abandon_terms (slot : Slot) (id : Nat) : (slot.abandon id).terms = slot.terms := by
  rw [abandon]
  split
  · rfl
  · rw [giveBackAssigned_terms]
    rfl

/-! ## Permits and leases -/

theorem Serves.returnPermit {slot : Slot} {id : Nat} {queued holding leased : List Nat}
    (serves : slot.Serves queued (id :: holding) leased) :
    (slot.returnPermit id).Serves queued holding leased := by
  have held : id ∈ slot.granted := serves.granted_perm.mem_iff.mpr List.mem_cons_self
  have others : (slot.granted.erase id).Perm holding := by
    simpa using serves.granted_perm.erase id
  have one_less := List.length_erase_add_one held
  have balance := serves.balance
  rw [Slot.returnPermit, if_pos (by simpa using held)]
  exact .giveBack (by simp only [assigned] at balance ⊢; omega) serves.waiting_eq
    serves.waiting_le serves.active_eq serves.queue_perm others serves.live_perm

@[simp]
theorem returnPermit_terms (slot : Slot) (id : Nat) :
    (slot.returnPermit id).terms = slot.terms := by
  rw [returnPermit]
  split
  · rw [giveBack_terms]
    rfl
  · rfl

theorem Serves.lease {slot : Slot} {id : Nat} {queued holding leased : List Nat}
    (serves : slot.Serves queued (id :: holding) leased) (connection : Nat) :
    (slot.lease id connection).Serves queued holding (connection :: leased) := by
  have held : id ∈ slot.granted := serves.granted_perm.mem_iff.mpr List.mem_cons_self
  have others : (slot.granted.erase id).Perm holding := by
    simpa using serves.granted_perm.erase id
  have one_less := List.length_erase_add_one held
  refine ⟨?_, serves.waiting_eq, serves.waiting_le, ?_, serves.queue_perm, others, ?_⟩
  · have balance := serves.balance
    simp only [Slot.lease, assigned, List.length_append, List.length_singleton] at balance ⊢
    omega
  · simp [Slot.lease, serves.active_eq]
  · exact (List.perm_append_singleton _ _).trans (serves.live_perm.cons _)

theorem Serves.endLease {slot : Slot} {connection : Nat} {queued holding leased : List Nat}
    (serves : slot.Serves queued holding (connection :: leased)) :
    (slot.endLease connection).Serves queued holding leased := by
  have open_lease : connection ∈ slot.live := serves.live_perm.mem_iff.mpr List.mem_cons_self
  have others : (slot.live.erase connection).Perm leased := by
    simpa using serves.live_perm.erase connection
  have one_less := List.length_erase_add_one open_lease
  have balance := serves.balance
  have active_eq := serves.active_eq
  rw [Slot.endLease, if_pos (by simpa using open_lease)]
  exact .giveBack (by simp only [assigned] at balance ⊢; omega) serves.waiting_eq
    serves.waiting_le (by dsimp only; omega) serves.queue_perm serves.granted_perm others

@[simp]
theorem endLease_terms (slot : Slot) (connection : Nat) :
    (slot.endLease connection).terms = slot.terms := by
  rw [endLease]
  split
  · rw [giveBack_terms]
    rfl
  · rfl

theorem Serves.close {slot : Slot} {queued holding leased : List Nat}
    (serves : slot.Serves queued holding leased) : slot.close.1.Serves queued holding leased :=
  ⟨serves.balance, serves.waiting_eq, serves.waiting_le, serves.active_eq, serves.queue_perm,
    serves.granted_perm, serves.live_perm⟩

/-- The lists a slot serves may be written in any order. -/
theorem Serves.perm {slot : Slot} {queued holding leased queued' holding' leased' : List Nat}
    (serves : slot.Serves queued holding leased) (queued_perm : queued.Perm queued')
    (holding_perm : holding.Perm holding') (leased_perm : leased.Perm leased') :
    slot.Serves queued' holding' leased' :=
  ⟨serves.balance, serves.waiting_eq, serves.waiting_le, serves.active_eq,
    serves.queue_perm.trans queued_perm, serves.granted_perm.trans holding_perm,
    serves.live_perm.trans leased_perm⟩

/-- No more permits and leases are out than the slot has permits. -/
theorem Serves.limits {slot : Slot} {queued holding leased : List Nat}
    (serves : slot.Serves queued holding leased) :
    holding.length + leased.length ≤ slot.maxConnections ∧
      queued.length ≤ slot.maxWaiters := by
  have balance := serves.balance
  have waiting_le := serves.waiting_le
  rw [serves.waiting_eq] at waiting_le
  rw [← serves.granted_perm.length_eq, ← serves.live_perm.length_eq,
    ← serves.queue_perm.length_eq, List.length_map]
  omega

end Courier.Slot
