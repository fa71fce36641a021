import Courier.Proofs.Pool.Turns

/-!
# Turns of a closed pool

A shutdown closes the slots that a pool keeps, but a task that starts afterwards may find that its
slot was forgotten, and then makes an open one.  So a closed pool refuses a request for certain
only where a closed slot is still in use.
-/

namespace Courier

/-- A reservation fails because the pool is closed exactly if its slot is. -/
theorem Slot.reserve_refuses_iff (slot : Slot) (id : Nat) :
    (slot.reserve id).2 = .failed .poolClosed ↔ slot.closed = true := by
  obtain ⟨closed, equation⟩ | ⟨is_open, _, equation⟩ | ⟨is_open, _, _, equation⟩ |
    ⟨is_open, _, _, equation⟩ := slot.reserve_cases id
  · rw [equation, closed]
    exact ⟨fun _ => rfl, fun _ => rfl⟩
  all_goals
    rw [equation, is_open]
    exact ⟨nofun, nofun⟩

theorem Slot.poll_refuses_iff {slot : Slot} {id : Nat} {reservation : Reservation}
    (found : slot.queue.find? (·.id == id) = some reservation) :
    (slot.poll id).2 = .failed .poolClosed ↔ slot.closed = true := by
  obtain ⟨closed, equation⟩ | ⟨is_open, _, equation⟩ | ⟨is_open, _, equation⟩ := poll_cases found
  · rw [equation, closed]
    exact ⟨fun _ => rfl, fun _ => rfl⟩
  all_goals
    rw [equation, is_open]
    exact ⟨nofun, nofun⟩

namespace TcpPool

variable {pool : TcpPool} {connections : List LeasedConnection} {kept : KeptSlot}
  {task : ServeTask} {endpoint : Endpoint} {view : RequesterView} {id slot connection : Nat}
  {handoff : Handoff Nat}

/-- A closed slot is kept for an endpoint and somebody uses it. -/
def HoldsClosed (pool : TcpPool) (endpoint : Endpoint) : Prop :=
  ∃ kept, pool.slotOf? endpoint = some kept ∧ kept.references ≠ 1 ∧ kept.slot.closed = true

/-- The slots that are in use are those not forgotten. -/
theorem Sound.slotOf_evictIdle (sound : pool.Sound connections) :
    pool.evictIdle.slotOf? endpoint = some kept ↔
      pool.slotOf? endpoint = some kept ∧ kept.references ≠ 1 := by
  constructor
  · intro found
    obtain ⟨kept_mem, rfl⟩ := mem_of_slotOf found
    obtain ⟨mem, in_use⟩ := List.mem_filter.mp kept_mem
    exact ⟨Identity.find_of_mem sound.ledger.endpoints_distinct mem, by simpa using in_use⟩
  · rintro ⟨found, in_use⟩
    obtain ⟨mem, rfl⟩ := mem_of_slotOf found
    have kept_mem : kept ∈ pool.evictIdle.slots :=
      List.mem_filter.mpr ⟨mem, by simpa using in_use⟩
    exact Identity.find_of_mem sound.evictIdle.ledger.endpoints_distinct kept_mem

/-- A requester that has not given up learns what its reservation learns. -/
theorem afterReservation_refuses_iff (wanted : view.cancelled = false)
    (listening : view.dropped = false) (answer : Slot.Answer) :
    (pool.afterReservation view id slot answer).2 = .error (.failed .poolClosed) ↔
      answer = .failed .poolClosed := by
  cases answer with
  | granted =>
      rw [afterReservation, wanted]
      simp
  | pending =>
      rw [afterReservation, listening]
      simp
  | failed error =>
      rw [afterReservation]
      constructor
      · intro same
        rw [Served.failed.inj (Except.error.inj same)]
      · intro same
        rw [Slot.Answer.failed.inj same]

theorem Sound.start_refuses_iff (sound : pool.Sound connections) (wanted : view.cancelled = false)
    (listening : view.dropped = false) :
    (pool.start view task).2 = .error (.failed .poolClosed) ↔ pool.HoldsClosed task.endpoint := by
  obtain ⟨cancelled, _⟩ | ⟨_, _, absent, equation⟩ | ⟨_, _, opened, kept, ensured, equation⟩ :=
    pool.start_cases view task
  · rw [wanted] at cancelled
    cases cancelled
  · rw [equation]
    refine ⟨nofun, ?_⟩
    rintro ⟨kept, found, in_use, _⟩
    rw [sound.slotOf_evictIdle.mpr ⟨found, in_use⟩] at absent
    cases absent
  · rw [equation, afterReservation_refuses_iff wanted listening, Slot.reserve_refuses_iff]
    cases kept_found : pool.evictIdle.slotOf? task.endpoint with
    | some found =>
        rw [ensureSlot_of_found kept_found] at ensured
        obtain rfl := (Prod.mk.inj ensured).2
        obtain ⟨found_slot, in_use⟩ := sound.slotOf_evictIdle.mp kept_found
        constructor
        · exact fun closed => ⟨found, found_slot, in_use, closed⟩
        · rintro ⟨other, other_found, _, closed⟩
          rw [Option.some.inj (found_slot.symm.trans other_found)]
          exact closed
    | none =>
        have fresh := ensureSlot_of_absent kept_found
        rw [ensured] at fresh
        constructor
        · intro closed
          rw [show kept = _ from fresh] at closed
          cases closed
        · rintro ⟨other, other_found, in_use, _⟩
          rw [sound.slotOf_evictIdle.mpr ⟨other_found, in_use⟩] at kept_found
          cases kept_found

theorem Sound.resume_refuses_iff (sound : pool.Sound connections) (mem : task ∈ pool.tasks)
    (queued : task.stage = .queued slot) (look : FirstLook) (wanted : view.cancelled = false)
    (listening : view.dropped = false) :
    (pool.resume look view task.id slot).2 = .error (.failed .poolClosed) ↔
      pool.HoldsClosed task.endpoint := by
  obtain ⟨kept, kept_mem, rfl, endpoint_eq⟩ :=
    sound.ledger.task_slot task mem slot (by rw [queued]; rfl)
  have found : pool.slotOf? task.endpoint = some kept := by
    rw [← endpoint_eq]
    exact Identity.find_of_mem sound.ledger.endpoints_distinct kept_mem
  have in_use := sound.ledger.references_of_task kept_mem mem (by rw [queued]; rfl)
  obtain ⟨others, rest, focus, accounted⟩ :=
    sound.focus_user kept_mem mem (by rw [queued]; rfl)
  obtain ⟨reservation, _, reserved, _⟩ :=
    (accounted_queued queued accounted).serves.find_reservation (focus.id_new _)
  obtain ⟨_, dropped, _⟩ | ⟨_, equation⟩ := resume_cases (sound.slot_of_id kept_mem)
  · rw [listening] at dropped
    cases dropped
  · rw [equation, afterReservation_refuses_iff wanted listening, Slot.poll_refuses_iff reserved]
    constructor
    · exact fun closed => ⟨kept, found, in_use, closed⟩
    · rintro ⟨other, other_found, _, closed⟩
      rw [Option.some.inj (found.symm.trans other_found)]
      exact closed

/-! ## Whole turns -/

/-- The next turn of a task fails its request because the pool is closed: a closed slot that is in
use refuses a permit to it, or it has one and what it dials would be good for a connection. -/
def Refuses (pool : TcpPool) (task : ServeTask) (dialed : Dialed) : Prop :=
  match task.stage with
  | .dialing _ =>
    dialed = .failed .poolClosed ∨
      dialed = .connected ∧
        ∃ protocol, pool.negotiate task.endpoint task.protocol = .ok protocol
  | _ => pool.HoldsClosed task.endpoint

/-- What a requester who has not given up is told in a turn after a shutdown. -/
def Served.refusal : Served → Option ConnectError
  | .failed error => some error
  | .connected _ _ => some .poolClosed
  | .waiting | .givenUp | .crashed => none

theorem answer_of_closed (sound : pool.Sound connections) (mem : task ∈ pool.tasks)
    (closed : pool.closed = true) (wanted : handoff.isCancelled = false) (network : Network)
    (look : FirstLook) (route : Handoff.Route) :
    (pool.turn network look route task.id connection handoff).result.answer? connection =
      (pool.poll network look (.ofHandoff handoff) task.id).2.refusal.map .error := by
  have still_closed :=
    (sound.poll mem network look (.ofHandoff handoff)).follows.closed_eq.trans closed
  have accepted : ∀ error : ConnectError,
      (handoff.resolve route (.error error)).2.accepted = true := by
    intro error
    obtain ⟨cancelled, _⟩ | ⟨_, _, equation⟩ | ⟨_, _, equation⟩ | ⟨_, _, equation⟩ :=
      handoff.resolve_cases route (.error error)
    · rw [wanted] at cancelled
      cases cancelled
    all_goals
      rw [equation]
      rfl
  rw [turn]
  generalize pool.poll network look (.ofHandoff handoff) task.id = result at still_closed
  obtain ⟨polled, served⟩ := result
  cases served with
  | waiting => rfl
  | givenUp => rfl
  | crashed => rfl
  | failed error =>
      simp only [TurnResult.answer?, accepted, if_true]
      rfl
  | connected slot protocol =>
      have leased_closed : (polled.lease task.id slot connection).closed = true := still_closed
      simp only [leased_closed, if_true, refuseLate, TurnResult.answer?, accepted]
      rfl

theorem dial_refuses_iff (pool : TcpPool) (dialed : Dialed) (task : ServeTask) (slot : Nat) :
    (pool.dial (fun _ => dialed) task slot).2.refusal = some .poolClosed ↔
      dialed = .failed .poolClosed ∨
        dialed = .connected ∧
          ∃ protocol, pool.negotiate task.endpoint task.protocol = .ok protocol := by
  rw [dial]
  cases dialed with
  | pending => simp [Served.refusal]
  | failed error => simp [Served.refusal]
  | connected =>
      cases negotiated : pool.negotiate task.endpoint task.protocol with
      | ok protocol => simp [Served.refusal]
      | error error =>
          have not_closed : error ≠ .poolClosed := by
            rintro rfl
            rw [negotiate] at negotiated
            repeat' split at negotiated
            all_goals cases negotiated
          simp [Served.refusal, not_closed]

theorem advance_refuses_iff (sound : pool.Sound connections) (mem : task ∈ pool.tasks)
    (not_dialing : ∀ slot, task.stage ≠ .dialing slot) (look : FirstLook)
    (wanted : view.cancelled = false) (listening : view.dropped = false) :
    (pool.advance look view task).2 = .error (.failed .poolClosed) ↔
      pool.HoldsClosed task.endpoint := by
  rw [advance]
  cases stage : task.stage with
  | spawned => exact sound.start_refuses_iff wanted listening
  | queued slot => exact sound.resume_refuses_iff mem stage look wanted listening
  | dialing slot => exact absurd stage (not_dialing slot)

theorem beginsDial_of_dialing (found : pool.task? id = some task)
    (dialing : task.stage = .dialing slot) (look : FirstLook) :
    pool.beginsDial look view id = false := by
  rw [beginsDial, found]
  simp only [dialing]

theorem beginsDial_of_not_dialing (found : pool.task? id = some task)
    (not_dialing : ∀ slot, task.stage ≠ .dialing slot) (look : FirstLook) :
    pool.beginsDial look view id = (pool.advance look view task).2.toBool := by
  rw [beginsDial, found]
  dsimp only
  split
  · rename_i slot dialing
    exact absurd dialing (not_dialing slot)
  · rfl

theorem refuses_of_not_dialing (not_dialing : ∀ slot, task.stage ≠ .dialing slot)
    (dialed : Dialed) : pool.Refuses task dialed ↔ pool.HoldsClosed task.endpoint := by
  rw [Refuses]
  split
  · rename_i slot dialing
    exact absurd dialing (not_dialing slot)
  · exact Iff.rfl

/-- After a shutdown, a turn of a task begins no dial and tells its requester that the pool is
closed exactly if a closed slot that is in use or a connection is refused to it. -/
theorem turn_refuses_iff (sound : pool.Sound connections) (mem : task ∈ pool.tasks)
    (closed : pool.closed = true) (wanted : handoff.isCancelled = false) (look : FirstLook)
    (dialed : Dialed) (route : Handoff.Route) :
    (pool.beginsDial look (.ofHandoff handoff) task.id = false ∧
        (pool.turn (fun _ => dialed) look route task.id connection handoff).result.answer?
          connection = some (.error .poolClosed)) ↔
      pool.Refuses task dialed := by
  have cancelled_eq : (RequesterView.ofHandoff handoff).cancelled = false := wanted
  have dropped_eq : (RequesterView.ofHandoff handoff).dropped = false :=
    (Bool.or_eq_false_iff.mp wanted).2
  have found := task_of_mem sound mem
  have told : ∀ refusal : Option ConnectError,
      refusal.map Except.error = some (.error .poolClosed : Answer Nat) ↔
        refusal = some .poolClosed := by
    intro refusal
    cases refusal <;> simp
  rw [answer_of_closed sound mem closed wanted, told, poll, found]
  dsimp only
  by_cases has_permit : ∃ slot, task.stage = .dialing slot
  · obtain ⟨slot, dialing⟩ := has_permit
    have advanced : pool.advance look (.ofHandoff handoff) task = (pool, .ok slot) := by
      simp only [advance, dialing]
    rw [beginsDial_of_dialing found dialing, Refuses, dialing, advanced]
    exact (and_iff_right rfl).trans (pool.dial_refuses_iff dialed task slot)
  · have not_dialing : ∀ slot, task.stage ≠ .dialing slot := fun slot dialing =>
      has_permit ⟨slot, dialing⟩
    have arrives := (sound.advance mem look (.ofHandoff handoff)).arrives
    rw [beginsDial_of_not_dialing found not_dialing, refuses_of_not_dialing not_dialing,
      ← advance_refuses_iff sound mem not_dialing look cancelled_eq dropped_eq]
    generalize pool.advance look (.ofHandoff handoff) task = result at arrives
    obtain ⟨advanced, arrival⟩ := result
    dsimp only at arrives ⊢
    cases arrives with
    | waits slot mem => simp [Served.refusal]
    | dials mem => simp [Except.toBool]
    | ends final gone =>
        rename_i served
        cases served with
        | waiting => cases final
        | connected slot protocol => cases final
        | givenUp => simp [Served.refusal]
        | crashed => simp [Served.refusal]
        | failed error => simp [Served.refusal, Except.toBool]

end TcpPool

end Courier
