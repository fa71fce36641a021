import Courier.Pool.Settlement
import Courier.Proofs.Pool.Turns

/-!
# Why a turn ends as it does

A task gives up only if its requester has, waits only for a permit or for the network, and tells
nobody that a request was abandoned unless the network said so.  Connections and failures are
counted where they are reported, once each.
-/

namespace Courier

/-! ## Reservations -/

/-- What a slot that answers a reservation in this way is like: it refuses for reasons of its own,
and lets a reservation wait only if it is open and has no permit for it. -/
def Slot.Explains (slot : Slot) (id : Nat) : Slot.Answer → Prop
  | .granted => True
  | .failed error => error ≠ .abandoned
  | .pending => slot.closed = false ∧ ⟨id, false⟩ ∈ slot.queue

theorem Slot.reserve_explains (slot : Slot) (id : Nat) :
    (slot.reserve id).1.Explains id (slot.reserve id).2 := by
  obtain ⟨_, equation⟩ | ⟨_, _, equation⟩ | ⟨_, _, _, equation⟩ | ⟨is_open, _, _, equation⟩ :=
    slot.reserve_cases id <;> rw [equation]
  · exact ConnectError.noConfusion
  · trivial
  · exact ConnectError.noConfusion
  · exact ⟨is_open, List.mem_append_right _ List.mem_cons_self⟩

theorem Slot.poll_explains {slot : Slot} {id : Nat} {reservation : Reservation}
    (found : slot.queue.find? (·.id == id) = some reservation) :
    (slot.poll id).1.Explains id (slot.poll id).2 := by
  obtain ⟨_, equation⟩ | ⟨_, _, equation⟩ | ⟨is_open, unassigned, equation⟩ := poll_cases found <;>
    rw [equation]
  · exact ConnectError.noConfusion
  · trivial
  · obtain ⟨mem, rfl⟩ := Identity.mem_of_find found
    refine ⟨is_open, ?_⟩
    rw [← unassigned]
    exact mem

namespace TcpPool

variable {pool before : TcpPool} {connections : List LeasedConnection} {kept : KeptSlot}
  {task : ServeTask} {view : RequesterView} {dialed : Dialed} {slot connection : Nat}
  {handoff : Handoff Nat} {route : Handoff.Route}

/-! ## On the way to a permit -/

/-- What a pool has counted: connections handed over, and requests failed. -/
def counts (pool : TcpPool) : Nat × Nat := (pool.established, pool.failed)

theorem countFailure_counts (counts_eq : pool.counts = before.counts) :
    pool.countFailure.counts = before.countFailure.counts :=
  congrArg (fun counts : Nat × Nat => (counts.1, counts.2 + 1)) counts_eq

theorem ensureSlot_counts (pool : TcpPool) (endpoint : Endpoint) :
    (pool.ensureSlot endpoint).1.counts = pool.counts := by
  rw [ensureSlot]
  split <;> rfl

/-- A task waits for a permit: it is in the queue of an open slot, which has assigned none to it. -/
def Queues (pool : TcpPool) (task : ServeTask) : Prop :=
  ∃ kept ∈ pool.slots, { task with stage := .queued kept.id } ∈ pool.tasks ∧
    kept.slot.closed = false ∧ ⟨task.id, false⟩ ∈ kept.slot.queue

/-- How far a task comes, and why not further. -/
inductive Reaches (pool : TcpPool) (view : RequesterView) (task : ServeTask) :
    TcpPool × Except Served Nat → Prop
  | permit {after : TcpPool} {slot : Nat} (counts_eq : after.counts = pool.counts)
      (mem : { task with stage := .dialing slot } ∈ after.tasks) :
      Reaches pool view task (after, .ok slot)
  | queue {after : TcpPool} (counts_eq : after.counts = pool.counts)
      (queues : after.Queues task) : Reaches pool view task (after, .error .waiting)
  | givesUp {after : TcpPool} (counts_eq : after.counts = pool.counts)
      (gone : view.cancelled = true ∨ view.dropped = true) :
      Reaches pool view task (after, .error .givenUp)
  | fails {after : TcpPool} {error : ConnectError}
      (counts_eq : after.counts = pool.countFailure.counts) (told : error ≠ .abandoned) :
      Reaches pool view task (after, .error (.failed error))

theorem updateSlot_mem (mem : kept ∈ pool.slots) (change : Slot → Slot) (count : Nat → Nat) :
    kept.update change count ∈ (pool.updateSlot kept.id change count).slots :=
  List.mem_map.mpr ⟨kept, mem, if_pos (beq_self_eq_true _)⟩

/-- A slot after a first poll of the reservation of a task. -/
theorem reserving_mem (mem : kept ∈ pool.slots) (id : Nat) :
    kept.update (fun _ => (kept.slot.reserve id).1) (· + 1) ∈ (pool.reserving kept id).slots :=
  updateSlot_mem (updateSlot_mem mem (fun slot => slot) (· + 1))
    (fun _ => (kept.slot.reserve id).1) fun references => references

/-- However a slot has answered a reservation, its task goes on for that reason. -/
theorem Reaches.afterReservation {answer : Slot.Answer} (counts_eq : pool.counts = before.counts)
    (task_mem : task ∈ pool.tasks) (kept_mem : kept ∈ pool.slots)
    (explains : kept.slot.Explains task.id answer) (view : RequesterView) :
    before.Reaches view task (pool.afterReservation view task.id kept.id answer) := by
  cases answer with
  | failed error =>
      exact .fails (countFailure_counts counts_eq) explains
  | granted =>
      rw [TcpPool.afterReservation]
      cases cancelled : view.cancelled with
      | true => exact .givesUp counts_eq (Or.inl cancelled)
      | false => exact .permit counts_eq (moveTask_mem task_mem _)
  | pending =>
      rw [TcpPool.afterReservation]
      cases dropped : view.dropped with
      | true => exact .givesUp counts_eq (Or.inr dropped)
      | false => exact .queue counts_eq ⟨kept, kept_mem, moveTask_mem task_mem _, explains⟩

theorem Sound.reaches_start (sound : pool.Sound connections) (mem : task ∈ pool.tasks)
    (few : pool.limits.maxPoolSize.toNat ≤ permitLimit) (view : RequesterView) :
    pool.Reaches view task (pool.start view task) := by
  obtain ⟨cancelled, equation⟩ | ⟨_, many, _⟩ | ⟨_, _, opened, kept, ensured, equation⟩ :=
    pool.start_cases view task
  · rw [equation]
    exact .givesUp rfl (Or.inl cancelled)
  · exact absurd few (Nat.not_le.mpr many)
  · have opened_counts := pool.evictIdle.ensureSlot_counts task.endpoint
    have opened_tasks := pool.evictIdle.ensureSlot_tasks task.endpoint
    obtain ⟨_, kept_mem, _⟩ := sound.evictIdle.ensureSlot task.endpoint
    rw [ensured] at opened_counts opened_tasks kept_mem
    have opened_mem : task ∈ opened.tasks := by
      rw [opened_tasks]
      exact mem
    have reserving_counts : (opened.reserving kept task.id).counts = pool.counts := opened_counts
    rw [equation]
    exact .afterReservation reserving_counts opened_mem (reserving_mem kept_mem task.id)
      (kept.slot.reserve_explains task.id) view

theorem Sound.reaches_resume (sound : pool.Sound connections) (mem : task ∈ pool.tasks)
    (queued : task.stage = .queued slot) (look : FirstLook) (view : RequesterView) :
    pool.Reaches view task (pool.resume look view task.id slot) := by
  obtain ⟨kept, kept_mem, rfl, _⟩ := sound.ledger.task_slot task mem slot (by rw [queued]; rfl)
  obtain ⟨_, dropped, equation⟩ | ⟨_, equation⟩ := resume_cases (sound.slot_of_id kept_mem)
  · rw [equation]
    exact .givesUp rfl (Or.inr dropped)
  · obtain ⟨others, rest, focus, accounted⟩ :=
      sound.focus_user kept_mem mem (by rw [queued]; rfl)
    obtain ⟨_, _, found, _⟩ :=
      (accounted_queued queued accounted).serves.find_reservation (focus.id_new _)
    have polled := updateSlot_mem kept_mem (fun _ => (kept.slot.poll task.id).1)
      fun references => references
    have polling_counts : (pool.polling kept task.id).counts = pool.counts := rfl
    rw [equation]
    exact .afterReservation polling_counts mem polled (Slot.poll_explains found) view

theorem Sound.reaches (sound : pool.Sound connections) (mem : task ∈ pool.tasks)
    (few : pool.limits.maxPoolSize.toNat ≤ permitLimit) (look : FirstLook)
    (view : RequesterView) : pool.Reaches view task (pool.advance look view task) := by
  have arrives := (sound.advance mem look view).arrives
  rw [TcpPool.advance] at arrives ⊢
  cases stage : task.stage with
  | spawned => exact sound.reaches_start mem few view
  | queued slot => exact sound.reaches_resume mem stage look view
  | dialing slot =>
      have unmoved : { task with stage := .dialing slot } = task := by rw [← stage]
      have still_mem : { task with stage := .dialing slot } ∈ pool.tasks := by
        rw [unmoved]
        exact mem
      exact .permit rfl still_mem

/-! ## Whole turns -/

/-- A task waits for a permit or for the network. -/
def Waits (pool : TcpPool) (task : ServeTask) (dialed : Dialed) : Prop :=
  pool.Queues task ∨
    dialed = .pending ∧ ∃ slot, { task with stage := .dialing slot } ∈ pool.tasks

/-- What a turn comes to, and why. -/
inductive Comes (pool : TcpPool) (view : RequesterView) (dialed : Dialed) (task : ServeTask) :
    TcpPool × Served → Prop
  | connects {after : TcpPool} {slot : Nat} {protocol : Http.Version}
      (counts_eq : after.counts = pool.counts) :
      Comes pool view dialed task (after, .connected slot protocol)
  | waits {after : TcpPool} (counts_eq : after.counts = pool.counts)
      (waits : after.Waits task dialed) : Comes pool view dialed task (after, .waiting)
  | givesUp {after : TcpPool} (counts_eq : after.counts = pool.counts)
      (gone : view.cancelled = true ∨ view.dropped = true) :
      Comes pool view dialed task (after, .givenUp)
  | fails {after : TcpPool} {error : ConnectError}
      (counts_eq : after.counts = pool.countFailure.counts)
      (told : error = .abandoned → dialed = .failed .abandoned) :
      Comes pool view dialed task (after, .failed error)

theorem negotiate_told {endpoint : Endpoint} {protocol : Http.Version} {error : ConnectError}
    (negotiated : pool.negotiate endpoint protocol = .error error) : error ≠ .abandoned := by
  rintro rfl
  rw [negotiate] at negotiated
  repeat' split at negotiated
  all_goals cases negotiated

theorem Comes.dial (counts_eq : pool.counts = before.counts)
    (mem : { task with stage := .dialing slot } ∈ pool.tasks) (dialed : Dialed) :
    before.Comes view dialed task (pool.dial (fun _ => dialed) task slot) := by
  have one_more := countFailure_counts counts_eq
  rw [TcpPool.dial]
  cases dialed with
  | pending => exact .waits counts_eq (Or.inr ⟨rfl, slot, mem⟩)
  | failed error => exact .fails one_more (congrArg Dialed.failed)
  | connected =>
      dsimp only
      split
      · rename_i error negotiated
        exact .fails one_more fun abandoned => absurd abandoned (negotiate_told negotiated)
      · exact .connects counts_eq

theorem Sound.comes (sound : pool.Sound connections) (mem : task ∈ pool.tasks)
    (few : pool.limits.maxPoolSize.toNat ≤ permitLimit) (look : FirstLook) (view : RequesterView)
    (dialed : Dialed) :
    pool.Comes view dialed task (pool.poll (fun _ => dialed) look view task.id) := by
  have reaches := sound.reaches mem few look view
  rw [TcpPool.poll, task_of_mem sound mem]
  dsimp only
  generalize pool.advance look view task = result at reaches
  cases reaches with
  | permit counts_eq mem => exact .dial counts_eq mem dialed
  | queue counts_eq queues => exact .waits counts_eq (Or.inl queues)
  | givesUp counts_eq gone => exact .givesUp counts_eq gone
  | fails counts_eq told => exact .fails counts_eq fun abandoned => absurd abandoned told

/-! ## Settling a request -/

theorem TurnResult.answer_of_settlement (result : TurnResult) (connection : Nat) :
    result.answer? connection = (result.settlement? connection).bind Settlement.answer? := by
  cases result <;> rfl

/-- A turn has settled its request: the pool has counted that, and the requester has got what it
accepted. -/
structure Settles (pool : TcpPool) (handoff : Handoff Nat) (route : Handoff.Route)
    (dialed : Dialed) (turn : Turn) (settlement : Settlement) : Prop where
  established_eq : turn.pool.established = pool.established + settlement.isDelivery.toNat
  failed_eq : turn.pool.failed = pool.failed + settlement.isFailure.toNat
  not_held : turn.handoff.sender ≠ .held
  cancelled_eq : turn.handoff.isCancelled = handoff.isCancelled
  /-- Nothing comes of a request only if nobody wants it any more. -/
  idle : settlement.isIdle = true → handoff.isCancelled = true
  /-- Only the network can say that a request was abandoned. -/
  carried : turn.handoff.carried? = some (.error .abandoned) → dialed = .failed .abandoned
  /-- A requester that gets nothing has given up, or its context is closed. -/
  ended : turn.handoff.sender = .gone → turn.handoff.arrived = none →
    handoff.isCancelled = true ∨ route = .refused

/-- A turn that reports a failure has settled its request. -/
theorem Settles.report {after : TcpPool} {error : ConnectError} {result : TurnResult}
    (proper : handoff.Proper) (held : handoff.sender = .held)
    (counts_eq : after.counts = pool.countFailure.counts)
    (told : error = .abandoned → dialed = .failed .abandoned) :
    Settles pool handoff route dialed
      ⟨after, (handoff.resolve route (.error error)).1, result⟩
      (.reported error (handoff.resolve route (.error error)).2.accepted) where
  established_eq := congrArg Prod.fst counts_eq
  failed_eq := congrArg Prod.snd counts_eq
  not_held := handoff.resolve_sender_ne_held route _
  cancelled_eq := handoff.resolve_isCancelled route _
  idle := fun idle => absurd idle Bool.false_ne_true
  carried := by
    intro carries
    dsimp only at carries
    rw [Handoff.resolve_carried route _ proper held] at carries
    split at carries
    · exact told (Except.error.inj (Option.some.inj carries))
    · cases carries
  ended := handoff.resolve_ended route _

/-- A turn that offers a connection has settled its request. -/
theorem Settles.offer {leasing : TcpPool} (proper : handoff.Proper)
    (held : handoff.sender = .held) (counts_eq : leasing.counts = pool.counts)
    (protocol : Http.Version) :
    Settles pool handoff route dialed (leasing.offer handoff route slot connection protocol)
      (.offered connection (handoff.resolve route (.ok connection)).2.accepted) where
  established_eq := by
    have same : leasing.established = pool.established := congrArg Prod.fst counts_eq
    rw [TcpPool.offer, ← same]
    generalize handoff.resolve route (.ok connection) = resolved
    obtain ⟨_, reception⟩ := resolved
    cases reception <;> rfl
  failed_eq := by
    have same : leasing.failed = pool.failed := congrArg Prod.snd counts_eq
    rw [TcpPool.offer, ← same]
    generalize handoff.resolve route (.ok connection) = resolved
    obtain ⟨_, reception⟩ := resolved
    cases reception <;> rfl
  not_held := handoff.resolve_sender_ne_held route _
  cancelled_eq := handoff.resolve_isCancelled route _
  idle := by
    intro idle
    rw [Settlement.isIdle, handoff.resolve_accepted, Bool.not_not] at idle
    exact idle
  carried := by
    intro carries
    have resolved : (handoff.resolve route (.ok connection)).1.carried? =
        some (.error .abandoned) := carries
    rw [Handoff.resolve_carried route _ proper held] at resolved
    split at resolved <;> cases resolved
  ended := handoff.resolve_ended route _

/-- A turn that drops its request has settled it, because nobody wants it any more. -/
theorem Settles.drop {after : TcpPool} (proper : handoff.Proper) (held : handoff.sender = .held)
    (counts_eq : after.counts = pool.counts) (cancelled : handoff.isCancelled = true) :
    Settles pool handoff route dialed ⟨after, handoff.dropSender.1, .silent⟩ .dropped where
  established_eq := congrArg Prod.fst counts_eq
  failed_eq := congrArg Prod.snd counts_eq
  not_held := by simp [handoff.dropSender_sender]
  cancelled_eq := handoff.dropSender_isCancelled
  idle := fun _ => cancelled
  carried := by
    intro carries
    rw [proper.dropSender.carried_of_held proper held] at carries
    cases carries
  ended := fun _ _ => Or.inl cancelled

theorem gone_of_view (gone : (RequesterView.ofHandoff handoff).cancelled = true ∨
    (RequesterView.ofHandoff handoff).dropped = true) : handoff.isCancelled = true := by
  rcases gone with cancelled | dropped
  · exact cancelled
  · exact Bool.or_eq_true_iff.mpr (Or.inr dropped)

/-- A turn leaves its request open, and then waits with reason, or settles it. -/
theorem Sound.settles (sound : pool.Sound connections) (mem : task ∈ pool.tasks)
    (few : pool.limits.maxPoolSize.toNat ≤ permitLimit) (proper : handoff.Proper)
    (held : handoff.sender = .held) (look : FirstLook) (dialed : Dialed)
    (route : Handoff.Route) (connection : Nat) :
    let turn := pool.turn (fun _ => dialed) look route task.id connection handoff
    (turn.result.settlement? connection = none ∧ turn.handoff = handoff ∧
        turn.pool.counts = pool.counts ∧ turn.pool.Waits task dialed) ∨
      ∃ settlement, turn.result.settlement? connection = some settlement ∧
        pool.Settles handoff route dialed turn settlement := by
  have comes := sound.comes mem few look (.ofHandoff handoff) dialed
  rw [TcpPool.turn]
  generalize pool.poll (fun _ => dialed) look (.ofHandoff handoff) task.id = result at comes
  cases comes with
  | waits counts_eq waits => exact Or.inl ⟨rfl, rfl, counts_eq, waits⟩
  | givesUp counts_eq gone =>
      exact Or.inr ⟨_, rfl, .drop proper held counts_eq (gone_of_view gone)⟩
  | fails counts_eq told => exact Or.inr ⟨_, rfl, .report proper held counts_eq told⟩
  | connects counts_eq =>
      rename_i after slot protocol
      have leased_counts : (after.lease task.id slot connection).counts = pool.counts := counts_eq
      refine Or.inr ?_
      dsimp only
      split
      · exact ⟨_, rfl, .report proper held (countFailure_counts leased_counts)
          ConnectError.noConfusion⟩
      · exact ⟨_, rfl, .offer proper held leased_counts protocol⟩

end TcpPool

end Courier
