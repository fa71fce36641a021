import Courier.Proofs.Pool.Queue.Precedence

/-!
# What becomes of a reservation

The first poll of a reservation takes a free permit, queues, or fails on the spot; a later one tells
what has become of it in the queue.  Whenever a reservation leaves the queue it is counted as
waiting no more, and a permit that it was assigned and does not take goes back to the slot.
-/

namespace Courier

namespace Slot

variable {slot : Slot} {id : Nat} {reservation : Reservation}

theorem giveBack_closed (closed : slot.closed = true) :
    slot.giveBack = { slot with free := slot.free + 1 } := by
  rw [giveBack, if_pos closed]

theorem giveBackAssigned_closed (closed : slot.closed = true) (reservation : Reservation) :
    slot.giveBackAssigned reservation =
      { slot with free := slot.free + (if reservation.assigned then 1 else 0) } := by
  rw [giveBackAssigned]
  split
  · exact giveBack_closed closed
  · rfl

/-- A permit that is given back moves nobody in the queue. -/
theorem giveBack_ids (slot : Slot) : slot.giveBack.queue.map (·.id) = slot.queue.map (·.id) := by
  obtain equation | ⟨queue, found, equation⟩ := slot.giveBack_cases <;> rw [equation]
  exact ids_of_assignFirst found

theorem unqueue_ids (slot : Slot) (id : Nat) :
    (slot.unqueue id).queue.map (·.id) = (slot.queue.map (·.id)).filter (· != id) := by
  rw [unqueue, List.filter_map]
  rfl

theorem abandon_ids (found : slot.queue.find? (·.id == id) = some reservation) :
    (slot.abandon id).queue.map (·.id) = (slot.queue.map (·.id)).filter (· != id) := by
  cases permit : reservation.assigned with
  | true => rw [abandon_of_assigned found permit, giveBack_ids, unqueue_ids]
  | false => rw [abandon_of_unassigned found permit, unqueue_ids]

/-- A reservation that has just been queued and is given up leaves no trace. -/
theorem abandon_newcomer (absent : id ∉ slot.queue.map (·.id)) :
    abandon { slot with queue := slot.queue ++ [⟨id, false⟩], waiting := slot.waiting + 1 } id =
      slot := by
  have others : ∀ reservation ∈ slot.queue, reservation.id ≠ id := fun reservation mem same =>
    absent (List.mem_map.mpr ⟨reservation, mem, same⟩)
  let newcomer : Reservation := ⟨id, false⟩
  have found : (slot.queue ++ [newcomer]).find? (·.id == id) = some newcomer := by
    rw [List.find?_append, List.find?_eq_none.mpr (by simpa using others)]
    simp [newcomer]
  have left : (slot.queue ++ [newcomer]).filter (·.id != id) = slot.queue := by
    rw [List.filter_append, List.filter_eq_self.mpr (by simpa using others)]
    simp [newcomer]
  rw [abandon_of_unassigned found rfl, unqueue]
  simp only [newcomer] at left
  simp only [left, Nat.add_sub_cancel]

/-- A reservation in the queue of distinct ones is an assignee if it was assigned a permit. -/
theorem mem_assignees_iff (distinct : (slot.queue.map (·.id)).Nodup)
    (mem : reservation ∈ slot.queue) :
    reservation.id ∈ slot.assignees ↔ reservation.assigned = true := by
  refine ⟨fun assignee => ?_, mem_assignees mem⟩
  obtain ⟨other, other_assigned, same⟩ := List.mem_map.mp assignee
  obtain ⟨other_mem, has_permit⟩ := List.mem_filter.mp other_assigned
  obtain rfl := Identity.eq_of_identity distinct other_mem mem same
  exact has_permit

end Slot

namespace Occupancy

variable {occupancy : Occupancy} {maxConnections maxWaiters id : Nat}

/-- The terms of a slot change when it is closed, and at no other time. -/
theorem run_terms (occupancy : Occupancy) (actions : List Action) :
    (occupancy.run actions).slot.terms =
      { occupancy.slot.terms with
        closed := occupancy.slot.closed || decide (.close ∈ actions) } := by
  induction actions generalizing occupancy with
  | nil => simp [run, Slot.terms]
  | cons action rest induction =>
      have rest_terms := induction (occupancy.step action)
      by_cases closes : action = .close
      · subst closes
        simpa [run, step, Slot.close, Slot.terms] using rest_terms
      · have same : (occupancy.step action).slot.terms = occupancy.slot.terms := step_terms closes
        have same_closed : (occupancy.step action).slot.closed = occupancy.slot.closed :=
          congrArg Slot.Terms.closed same
        have not_first : Action.close ≠ action := fun first => closes first.symm
        rw [same, same_closed] at rest_terms
        simpa [run, not_first] using rest_terms

/-- The answer to the next poll of a reservation. -/
def answer (occupancy : Occupancy) (id : Nat) : Slot.Answer := (occupancy.pollSlot id).2

/-- What the first poll of a reservation answers, and what the slot is then. -/
structure FirstPoll (occupancy : Occupancy) (id : Nat) : Prop where
  granted_iff : occupancy.answer id = .granted ↔
    occupancy.slot.closed = false ∧ 0 < occupancy.slot.free
  closed_iff : occupancy.answer id = .failed .poolClosed ↔ occupancy.slot.closed = true
  exhausted_iff :
    occupancy.answer id =
        .failed (.poolExhausted occupancy.slot.endpoint.text occupancy.slot.maxConnections
          occupancy.slot.maxWaiters) ↔
      occupancy.slot.closed = false ∧ occupancy.slot.free = 0 ∧
        occupancy.slot.waiting = occupancy.slot.maxWaiters
  pending_iff : occupancy.answer id = .pending ↔
    occupancy.slot.closed = false ∧ occupancy.slot.free = 0 ∧
      occupancy.slot.waiting < occupancy.slot.maxWaiters
  granted : occupancy.answer id = .granted →
    (occupancy.step (.poll id)).slot.free + 1 = occupancy.slot.free ∧
      (occupancy.step (.poll id)).slot.queue = occupancy.slot.queue ∧
      (occupancy.step (.poll id)).slot.waiting = occupancy.slot.waiting ∧
      (occupancy.step (.poll id)).holding = id :: occupancy.holding
  /-- Whatever it fails with, the slot and what others have of it stay as they were. -/
  failed : ∀ error, occupancy.answer id = .failed error →
    (occupancy.step (.poll id)).slot = occupancy.slot ∧
      (occupancy.step (.poll id)).queued = occupancy.queued ∧
      (occupancy.step (.poll id)).holding = occupancy.holding
  /-- It is queued behind the others, and leaves no trace if it is given up at once. -/
  pending : occupancy.answer id = .pending →
    (occupancy.step (.poll id)).slot.free = occupancy.slot.free ∧
      (occupancy.step (.poll id)).slot.queue = occupancy.slot.queue ++ [⟨id, false⟩] ∧
      (occupancy.step (.poll id)).slot.waiting = occupancy.slot.waiting + 1 ∧
      (occupancy.step (.poll id)).queued = id :: occupancy.queued ∧
      ((occupancy.step (.poll id)).step (.abandon id)).slot = occupancy.slot

/-- What a later poll of a reservation answers, and what the slot is then. -/
structure LaterPoll (occupancy : Occupancy) (id : Nat) : Prop where
  granted_iff : occupancy.answer id = .granted ↔
    occupancy.slot.closed = false ∧ id ∈ occupancy.slot.assignees
  closed_iff : occupancy.answer id = .failed .poolClosed ↔ occupancy.slot.closed = true
  pending_iff : occupancy.answer id = .pending ↔
    occupancy.slot.closed = false ∧ id ∉ occupancy.slot.assignees
  granted : occupancy.answer id = .granted →
    (occupancy.step (.poll id)).slot.free = occupancy.slot.free ∧
      (occupancy.step (.poll id)).holding = id :: occupancy.holding
  /-- A permit that it was assigned before the close is free again. -/
  closed : occupancy.answer id = .failed .poolClosed →
    (occupancy.step (.poll id)).slot.free =
        occupancy.slot.free + (if id ∈ occupancy.slot.assignees then 1 else 0) ∧
      (occupancy.step (.poll id)).holding = occupancy.holding
  pending : occupancy.answer id = .pending →
    (occupancy.step (.poll id)).slot = occupancy.slot ∧ id ∈ (occupancy.step (.poll id)).queued
  /-- Once it has finished it waits no more, and the others are queued as they were. -/
  finished : occupancy.answer id ≠ .pending →
    (occupancy.step (.poll id)).slot.waiting + 1 = occupancy.slot.waiting ∧
      (occupancy.step (.poll id)).slot.queue = occupancy.slot.queue.filter (·.id != id) ∧
      (occupancy.step (.poll id)).queued = occupancy.queued.erase id

/-- What is left when a reservation in the queue is given up. -/
structure GivenUp (occupancy : Occupancy) (id : Nat) : Prop where
  waiting : (occupancy.step (.abandon id)).slot.waiting + 1 = occupancy.slot.waiting
  queued : (occupancy.step (.abandon id)).queued = occupancy.queued.erase id
  /-- The others keep their places. -/
  ids : (occupancy.step (.abandon id)).slot.queue.map (·.id) =
    (occupancy.slot.queue.map (·.id)).filter (· != id)
  permits :
    (occupancy.step (.abandon id)).slot.free + (occupancy.step (.abandon id)).slot.assigned =
      occupancy.slot.free + occupancy.slot.assigned
  /-- Without a permit it has nothing to give back. -/
  unassigned : id ∉ occupancy.slot.assignees →
    (occupancy.step (.abandon id)).slot.free = occupancy.slot.free ∧
      (occupancy.step (.abandon id)).slot.queue = occupancy.slot.queue.filter (·.id != id)
  closed : occupancy.slot.closed = true → id ∈ occupancy.slot.assignees →
    (occupancy.step (.abandon id)).slot.free = occupancy.slot.free + 1 ∧
      (occupancy.step (.abandon id)).slot.queue = occupancy.slot.queue.filter (·.id != id)
  /-- The permit goes to the first who waits, or is free where nobody does. -/
  passed_on : occupancy.slot.closed = false → id ∈ occupancy.slot.assignees →
    occupancy.slot.TakesBack (occupancy.step (.abandon id)).slot

/-! ## First polls -/

theorem answer_of_started (started : id ∈ occupancy.started) :
    occupancy.answer id = (occupancy.slot.reserve id).2 := by
  rw [answer, pollSlot, if_pos started]

/-- A newcomer that was queued and is given up at once leaves no trace. -/
theorem Sound.abandon_queued_newcomer (sound : occupancy.Sound maxConnections maxWaiters)
    (started : id ∈ occupancy.started)
    (reserve_eq : occupancy.slot.reserve id =
      ({ occupancy.slot with
          queue := occupancy.slot.queue ++ [⟨id, false⟩], waiting := occupancy.slot.waiting + 1 },
        .pending)) :
    ((occupancy.step (.poll id)).step (.abandon id)).slot = occupancy.slot := by
  have absent : id ∉ occupancy.slot.queue.map (·.id) := fun mem =>
    sound.not_queued started (sound.serves.queue_perm.mem_iff.mp mem)
  have after := step_first_poll started
  rw [reserve_eq] at after
  have queued : id ∈ (occupancy.step (.poll id)).queued := by
    rw [after]
    exact List.mem_cons_self
  rw [step_queued_abandon (sound.step _) queued, after]
  exact Slot.abandon_newcomer absent

theorem Sound.first_poll (sound : occupancy.Sound maxConnections maxWaiters)
    (started : id ∈ occupancy.started) : occupancy.FirstPoll id := by
  have answer_eq := answer_of_started started
  have after := step_first_poll started
  have not_queued := List.erase_of_not_mem (sound.not_queued started)
  have waiting_le := sound.serves.waiting_le
  obtain ⟨closed, reserve_eq⟩ | ⟨is_open, free, reserve_eq⟩ |
    ⟨is_open, none_free, full, reserve_eq⟩ | ⟨is_open, none_free, room, reserve_eq⟩ :=
    occupancy.slot.reserve_cases id <;> rw [reserve_eq] at answer_eq after
  · constructor <;> simp [answer_eq, after, closed, Occupancy.afterPoll, not_queued]
  · have some_free : occupancy.slot.free ≠ 0 := Nat.ne_of_gt free
    constructor <;> simp [answer_eq, after, is_open, free, some_free, Occupancy.afterPoll]
    exact Nat.sub_add_cancel free
  · have is_full : occupancy.slot.waiting = occupancy.slot.maxWaiters :=
      Nat.le_antisymm waiting_le full
    constructor <;>
      simp [answer_eq, after, is_open, none_free, is_full, Occupancy.afterPoll, not_queued,
        Slot.exhausted]
  · have not_full : occupancy.slot.waiting ≠ occupancy.slot.maxWaiters := Nat.ne_of_lt room
    have no_trace := sound.abandon_queued_newcomer started reserve_eq
    constructor <;> simp [answer_eq, is_open, none_free, room, not_full, no_trace]
    simp [after, Occupancy.afterPoll, not_queued, none_free]

/-! ## Later polls -/

/-- A queued reservation is found in the queue, and is an assignee if it has a permit there. -/
theorem Sound.find_queued (sound : occupancy.Sound maxConnections maxWaiters)
    (queued : id ∈ occupancy.queued) :
    ∃ reservation, reservation.id = id ∧
      occupancy.slot.queue.find? (·.id == id) = some reservation ∧
      (id ∈ occupancy.slot.assignees ↔ reservation.assigned = true) := by
  obtain ⟨reservation, rfl, found, _, _⟩ :=
    (sound.serves_queued queued).find_reservation sound.queued_distinct
  have distinct : (occupancy.slot.queue.map (·.id)).Nodup :=
    sound.serves.queue_perm.nodup_iff.mpr sound.queued_nodup
  exact ⟨reservation, rfl, found,
    Slot.mem_assignees_iff distinct (List.mem_of_find?_eq_some found)⟩

theorem Sound.later_poll (sound : occupancy.Sound maxConnections maxWaiters)
    (queued : id ∈ occupancy.queued) : occupancy.LaterPoll id := by
  have not_started : id ∉ occupancy.started := fun started => sound.not_queued started queued
  have answer_eq : occupancy.answer id = (occupancy.slot.poll id).2 := by
    rw [answer, pollSlot, if_neg not_started]
  have after : occupancy.step (.poll id) =
      occupancy.afterPoll id (occupancy.slot.poll id).1 (occupancy.slot.poll id).2 := by
    rw [Occupancy.step, if_pos (.inr queued), pollSlot, if_neg not_started]
  have left : (occupancy.step (.poll id)).queued = occupancy.queued.erase id →
      (occupancy.step (.poll id)).slot.waiting + 1 = occupancy.slot.waiting :=
    sound.waiting_of_left (sound.step _) queued
  obtain ⟨reservation, rfl, found, assignee_iff⟩ := sound.find_queued queued
  obtain ⟨closed, poll_eq⟩ | ⟨is_open, has_permit, poll_eq⟩ | ⟨is_open, no_permit, poll_eq⟩ :=
    Slot.poll_cases found
  · have left_closed : (occupancy.slot.unqueue reservation.id).closed = true := closed
    rw [Slot.giveBackAssigned_closed left_closed] at poll_eq
    rw [poll_eq] at answer_eq after
    have waiting := left (by rw [after]; rfl)
    constructor <;> simp [answer_eq, closed, waiting]
    · simp [after, Occupancy.afterPoll, Slot.unqueue, assignee_iff]
    · simp [after, Occupancy.afterPoll, Slot.unqueue]
  · rw [poll_eq] at answer_eq after
    have assignee := assignee_iff.mpr has_permit
    have waiting := left (by rw [after]; rfl)
    constructor <;> simp [answer_eq, is_open, assignee, waiting]
    · simp [after, Occupancy.afterPoll, Slot.unqueue]
    · simp [after, Occupancy.afterPoll, Slot.unqueue]
  · rw [poll_eq] at answer_eq after
    have not_assignee : reservation.id ∉ occupancy.slot.assignees := by
      simp [assignee_iff, no_permit]
    constructor <;> simp [answer_eq, is_open, not_assignee]
    simp [after, Occupancy.afterPoll]

/-! ## Reservations that are given up -/

theorem Sound.given_up (sound : occupancy.Sound maxConnections maxWaiters)
    (queued : id ∈ occupancy.queued)
    (takesBack : occupancy.slot.closed = false → occupancy.Frees (.abandon id) →
      occupancy.slot.TakesBack (occupancy.step (.abandon id)).slot) :
    occupancy.GivenUp id := by
  have after := step_queued_abandon sound queued
  obtain ⟨reservation, rfl, found, assignee_iff⟩ := sound.find_queued queued
  refine ⟨?_, ?_, ?_, sound.abandon_keeps_permits queued, ?_, ?_, takesBack⟩
  · exact sound.waiting_of_left (sound.step _) queued (by rw [after])
  · rw [after]
  · rw [after]
    exact Slot.abandon_ids found
  · intro not_assignee
    have no_permit : reservation.assigned = false := by
      simpa [assignee_iff] using not_assignee
    rw [after, Slot.abandon_of_unassigned found no_permit]
    exact ⟨rfl, rfl⟩
  · intro closed assignee
    have left_closed : (occupancy.slot.unqueue reservation.id).closed = true := closed
    rw [after, Slot.abandon_of_assigned found (assignee_iff.mp assignee)]
    dsimp only
    rw [Slot.giveBack_closed left_closed]
    exact ⟨rfl, rfl⟩

/-- A slot that is open when its users have acted passes on every permit that is set free. -/
theorem run_takes_back (endpoint : Endpoint) {maxConnections maxWaiters : Nat}
    {actions : List Action} {action : Action}
    (is_open : ((create endpoint maxConnections maxWaiters).run actions).slot.closed = false)
    (frees : ((create endpoint maxConnections maxWaiters).run actions).Frees action) :
    ((create endpoint maxConnections maxWaiters).run actions).slot.TakesBack
      (((create endpoint maxConnections maxWaiters).run actions).step action).slot := by
  have created := sound_create endpoint maxConnections maxWaiters
  have runs := Watch.run_occupancy (Watch.start endpoint maxConnections maxWaiters) actions
  have fair : ((Watch.start endpoint maxConnections maxWaiters).run actions).Fair :=
    (Watch.fair_start endpoint maxConnections maxWaiters).run created (by rwa [runs])
  have orderly := fair.orderly
  have apart := fair.apart
  rw [runs] at orderly apart
  have not_close : action ≠ .close := by
    rintro rfl
    exact frees
  have still_open := (congrArg Slot.Terms.closed (step_terms not_close)).trans is_open
  exact ((created.run actions).proceeds orderly apart still_open).takesBack frees

/-- However the users of a slot act, it is closed exactly if one of them has closed it.  The first
poll of a reservation is granted a permit if one is free, fails if the slot is closed or the queue
is full, and is queued otherwise; a later one is granted the permit that the reservation was
assigned, fails if the slot is closed, and is pending otherwise.  Whenever a reservation finishes or
is given up, the slot gets back what the reservation had of it. -/
theorem run_answers_reservations (endpoint : Endpoint) (maxConnections maxWaiters : Nat)
    (actions : List Action) :
    let occupancy := (create endpoint maxConnections maxWaiters).run actions
    occupancy.slot.terms =
        ⟨endpoint, maxConnections, maxWaiters, decide (.close ∈ actions)⟩ ∧
      (∀ id ∈ occupancy.started,
        occupancy.FirstPoll id ∧ (occupancy.step (.abandon id)).slot = occupancy.slot) ∧
      ∀ id ∈ occupancy.queued, occupancy.LaterPoll id ∧ occupancy.GivenUp id := by
  intro occupancy
  have sound : occupancy.Sound maxConnections maxWaiters :=
    (sound_create endpoint maxConnections maxWaiters).run actions
  refine ⟨run_terms _ actions, fun id started => ⟨sound.first_poll started, ?_⟩,
    fun id queued => ⟨sound.later_poll queued, ?_⟩⟩
  · rw [step, if_pos started]
  · exact sound.given_up queued (run_takes_back endpoint)

/-- A slot with one permit is closed after the permit was assigned to a queued reservation: its next
poll fails and sets the permit free, and a newcomer fails at once. -/
theorem closed_slot_takes_permit_back :
    let actions : List Action :=
      [.start, .poll 0, .start, .poll 1, .start, .poll 2, .start, .dropPermit 0, .close]
    let occupancy := (create ⟨"h", 80, false⟩ 1 2).run actions
    3 ∈ occupancy.started ∧ 1 ∈ occupancy.queued ∧ 1 ∈ occupancy.slot.assignees ∧
      occupancy.answer 3 = .failed .poolClosed ∧ occupancy.answer 1 = .failed .poolClosed ∧
      occupancy.slot.free = 0 ∧ (occupancy.step (.poll 1)).slot.free = 1 ∧
      occupancy.slot.waiting = 2 ∧ (occupancy.step (.poll 1)).slot.waiting = 1 := by
  intro actions occupancy
  have is_closed : occupancy.slot.closed = true := by decide
  have started : 3 ∈ occupancy.started := by decide
  have queued : 1 ∈ occupancy.queued := by decide
  have assignee : 1 ∈ occupancy.slot.assignees := by decide
  obtain ⟨_, first, later⟩ := run_answers_reservations ⟨"h", 80, false⟩ 1 2 actions
  have first_answer := (first 3 started).1.closed_iff.mpr is_closed
  have later_answer := (later 1 queued).1.closed_iff.mpr is_closed
  have free_after := ((later 1 queued).1.closed later_answer).1
  rw [if_pos assignee] at free_after
  have finished : occupancy.answer 1 ≠ .pending := by
    rw [later_answer]
    exact Slot.Answer.noConfusion
  have waiting_after := ((later 1 queued).1.finished finished).1
  exact ⟨started, queued, assignee, first_answer, later_answer, by decide, free_after, by decide,
    Nat.succ.inj waiting_after⟩

end Occupancy

end Courier
