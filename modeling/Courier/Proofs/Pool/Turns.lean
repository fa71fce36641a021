import Courier.Proofs.Handoff
import Courier.Proofs.Pool.Tasks

/-!
# What a turn of a task comes to

A task goes as far as its reservation and the network let it.  However that ends, the ledger is in
order, other tasks and the terms of the slots stay as they were, and the task either waits at its
slot or is gone.
-/

namespace Courier.TcpPool

variable {pool : TcpPool} {connections : List LeasedConnection} {kept : KeptSlot}
  {task : ServeTask} {id slot connection : Nat} {handoff : Handoff Nat}

/-- Whether a task ends by a turn that came to this without a connection. -/
def Served.ends : Served → Bool
  | .givenUp | .crashed | .failed _ => true
  | .waiting | .connected _ _ => false

/-- Where a task is once it has come as far as a permit, or not so far. -/
inductive Arrives (pool : TcpPool) (task : ServeTask) : Except Served Nat → Prop
  | waits (slot : Nat) (mem : { task with stage := .queued slot } ∈ pool.tasks) :
      Arrives pool task (.error .waiting)
  | dials {slot : Nat} (mem : { task with stage := .dialing slot } ∈ pool.tasks) :
      Arrives pool task (.ok slot)
  | ends {served : Served} (final : served.ends = true)
      (gone : ∀ other ∈ pool.tasks, other.id ≠ task.id) : Arrives pool task (.error served)

theorem endTask_gone (pool : TcpPool) (id : Nat) :
    ∀ other ∈ (pool.endTask id).tasks, other.id ≠ id := by
  intro other mem
  simpa using (List.mem_filter.mp mem).2

theorem moveTask_mem (mem : task ∈ pool.tasks) (stage : ServeStage) :
    { task with stage } ∈ (pool.moveTask task.id stage).tasks :=
  List.mem_map.mpr ⟨task, mem, if_pos (beq_self_eq_true _)⟩

theorem afterReservation_arrives (mem : task ∈ pool.tasks) (view : RequesterView) (slot : Nat)
    (answer : Slot.Answer) :
    Arrives (pool.afterReservation view task.id slot answer).1 task
      (pool.afterReservation view task.id slot answer).2 := by
  cases answer with
  | failed error => exact .ends rfl (endTask_gone _ _)
  | granted =>
      rw [TcpPool.afterReservation]
      split
      · exact .ends rfl (endTask_gone _ _)
      · exact .dials (moveTask_mem mem _)
  | pending =>
      rw [TcpPool.afterReservation]
      split
      · exact .ends rfl (endTask_gone _ _)
      · exact .waits slot (moveTask_mem mem _)

/-- A task has come as far as a permit, or not so far, and nothing else has changed. -/
structure Advanced (pool : TcpPool) (connections : List LeasedConnection) (task : ServeTask)
    (result : TcpPool × Except Served Nat) : Prop where
  sound : result.1.Sound connections
  follows : pool.Follows result.1 task.id
  arrives : Arrives result.1 task result.2

theorem Sound.slot_of_id (sound : pool.Sound connections) (mem : kept ∈ pool.slots) :
    pool.slot? kept.id = some kept :=
  Identity.find_of_mem sound.ledger.slots_distinct mem

theorem Sound.eq_of_id (sound : pool.Sound connections) {other : KeptSlot}
    (mem : kept ∈ pool.slots) (other_mem : other ∈ pool.slots) (same_id : other.id = kept.id) :
    other = kept :=
  Identity.eq_of_identity sound.ledger.slots_distinct other_mem mem same_id

theorem Sound.follows_reserving (sound : pool.Sound connections) (mem : kept ∈ pool.slots)
    (id : Nat) : pool.Follows (pool.reserving kept id) id := by
  have retained : pool.Follows (pool.retain kept.id) id := .updateSlot fun _ _ _ => rfl
  refine retained.trans (.updateSlot ?_)
  intro other other_mem same_id
  obtain ⟨found, found_mem, rfl⟩ := List.mem_map.mp other_mem
  have found_id : found.id = kept.id := by
    split at same_id <;> exact same_id
  obtain rfl := sound.eq_of_id mem found_mem found_id
  rw [if_pos (beq_self_eq_true _)]
  exact found.slot.reserve_terms id

theorem Sound.follows_polling (sound : pool.Sound connections) (mem : kept ∈ pool.slots)
    (id : Nat) : pool.Follows (pool.polling kept id) id := by
  refine .updateSlot ?_
  intro other other_mem same_id
  obtain rfl := sound.eq_of_id mem other_mem same_id
  exact other.slot.poll_terms id

theorem Sound.start (sound : pool.Sound connections) (mem : task ∈ pool.tasks)
    (spawned : task.stage = .spawned) (view : RequesterView) :
    pool.Advanced connections task (pool.start view task) := by
  obtain ⟨_, equation⟩ | ⟨_, _, _, equation⟩ | ⟨_, _, opened, kept, ensured, equation⟩ :=
    pool.start_cases view task
  · rw [equation]
    exact ⟨sound.dismiss mem spawned, .endTask pool task.id, .ends rfl (endTask_gone _ _)⟩
  · rw [equation]
    exact ⟨sound.evictIdle.dismiss mem spawned,
      (Follows.evictIdle pool _).trans (.endTask _ _), .ends rfl (endTask_gone _ _)⟩
  · obtain ⟨opened_sound, kept_mem, endpoint_eq⟩ := sound.evictIdle.ensureSlot task.endpoint
    have opened_follows : pool.Follows opened task.id := by
      have ensured_follows := Follows.ensureSlot pool.evictIdle task.endpoint task.id
      rw [ensured] at ensured_follows
      exact (Follows.evictIdle pool task.id).trans ensured_follows
    have opened_tasks : opened.tasks = pool.tasks := by
      have ensured_tasks := pool.evictIdle.ensureSlot_tasks task.endpoint
      rw [ensured] at ensured_tasks
      exact ensured_tasks
    rw [ensured] at opened_sound kept_mem endpoint_eq
    have opened_mem : task ∈ opened.tasks := by
      rw [opened_tasks]
      exact mem
    rw [equation]
    refine ⟨opened_sound.reserving kept_mem opened_mem spawned endpoint_eq view, ?_, ?_⟩
    · exact (opened_follows.trans (opened_sound.follows_reserving kept_mem _)).trans
        (.afterReservation _ view task.id kept.id _)
    · have reserving_mem : task ∈ (opened.reserving kept task.id).tasks := opened_mem
      exact afterReservation_arrives reserving_mem view kept.id _

theorem Sound.resume (sound : pool.Sound connections) (mem : task ∈ pool.tasks)
    (queued : task.stage = .queued slot) (look : FirstLook) (view : RequesterView) :
    pool.Advanced connections task (pool.resume look view task.id slot) := by
  obtain ⟨kept, kept_mem, rfl, _⟩ := sound.ledger.task_slot task mem slot (by rw [queued]; rfl)
  obtain ⟨_, _, equation⟩ | ⟨_, equation⟩ := resume_cases (sound.slot_of_id kept_mem)
  · rw [equation]
    exact ⟨sound.abandon kept_mem mem queued, .abandon pool task.id kept.id,
      .ends rfl (endTask_gone _ _)⟩
  · rw [equation]
    refine ⟨sound.polling kept_mem mem queued view, ?_, ?_⟩
    · exact (sound.follows_polling kept_mem task.id).trans
        (.afterReservation _ view task.id kept.id _)
    · have polling_mem : task ∈ (pool.polling kept task.id).tasks := mem
      exact afterReservation_arrives polling_mem view kept.id _

/-- However far a task comes, the ledger is in order. -/
theorem Sound.advance (sound : pool.Sound connections) (mem : task ∈ pool.tasks)
    (look : FirstLook) (view : RequesterView) :
    pool.Advanced connections task (pool.advance look view task) := by
  rw [TcpPool.advance]
  cases stage : task.stage with
  | spawned => exact sound.start mem stage view
  | queued slot => exact sound.resume mem stage look view
  | dialing slot =>
      have unmoved : { task with stage := .dialing slot } = task := by rw [← stage]
      have still_mem : { task with stage := .dialing slot } ∈ pool.tasks := by
        rw [unmoved]
        exact mem
      exact ⟨sound, .refl pool _, .dials still_mem⟩

/-! ## Dialing -/

/-- The outcomes of a dial. -/
theorem dial_cases (pool : TcpPool) (network : Network) (task : ServeTask) (slot : Nat) :
    (network task.endpoint = .pending ∧
        pool.dial network task slot = (pool, .waiting)) ∨
      (∃ error, pool.dial network task slot =
        ((pool.giveUpPermit task.id slot).countFailure, .failed error)) ∨
      (∃ protocol, pool.dial network task slot = (pool, .connected slot protocol)) := by
  rw [dial]
  cases network task.endpoint with
  | pending => exact Or.inl ⟨rfl, rfl⟩
  | failed error => exact Or.inr (Or.inl ⟨error, rfl⟩)
  | connected =>
      refine Or.inr ?_
      dsimp only
      split
      · rename_i error _
        exact Or.inl ⟨error, rfl⟩
      · rename_i protocol _
        exact Or.inr ⟨protocol, rfl⟩

/-- Where a task is after its turn. -/
inductive Stands (pool : TcpPool) (task : ServeTask) : Served → Prop
  | waits (stage : ServeStage) (mem : { task with stage } ∈ pool.tasks) :
      Stands pool task .waiting
  | connects {slot : Nat} {protocol : Http.Version}
      (mem : { task with stage := .dialing slot } ∈ pool.tasks) :
      Stands pool task (.connected slot protocol)
  | ends {served : Served} (final : served.ends = true)
      (gone : ∀ other ∈ pool.tasks, other.id ≠ task.id) : Stands pool task served

/-- A task has had its turn, and nothing else has changed. -/
structure Polled (pool : TcpPool) (connections : List LeasedConnection) (task : ServeTask)
    (result : TcpPool × Served) : Prop where
  sound : result.1.Sound connections
  follows : pool.Follows result.1 task.id
  stands : Stands result.1 task result.2

theorem Sound.countFailure (sound : pool.Sound connections) :
    pool.countFailure.Sound connections :=
  ⟨sound.ledger, sound.slots_below⟩

theorem Sound.dial (sound : pool.Sound connections)
    (mem : { task with stage := .dialing slot } ∈ pool.tasks) (network : Network) :
    pool.Polled connections task (pool.dial network task slot) := by
  obtain ⟨_, equation⟩ | ⟨error, equation⟩ | ⟨protocol, equation⟩ :=
    pool.dial_cases network task slot
  · rw [equation]
    exact ⟨sound, .refl pool _, .waits _ mem⟩
  · obtain ⟨kept, kept_mem, rfl, _⟩ := sound.ledger.task_slot _ mem slot rfl
    have given_up := sound.giveUpPermit kept_mem mem rfl
    rw [equation]
    exact ⟨given_up.countFailure,
      (Follows.giveUpPermit pool task.id kept.id).trans (.countFailure _ _),
      .ends rfl (endTask_gone _ _)⟩
  · rw [equation]
    exact ⟨sound, .refl pool _, .connects mem⟩

theorem task_of_mem (sound : pool.Sound connections) (mem : task ∈ pool.tasks) :
    pool.task? task.id = some task :=
  Identity.find_of_mem sound.ledger.tasks_distinct mem

/-- A turn of a task keeps the ledger in order. -/
theorem Sound.poll (sound : pool.Sound connections) (mem : task ∈ pool.tasks)
    (network : Network) (look : FirstLook) (view : RequesterView) :
    pool.Polled connections task (pool.poll network look view task.id) := by
  obtain ⟨advanced_sound, advanced_follows, arrives⟩ := sound.advance mem look view
  rw [TcpPool.poll, task_of_mem sound mem]
  dsimp only
  generalize pool.advance look view task = result at advanced_sound advanced_follows arrives
  obtain ⟨advanced, arrival⟩ := result
  cases arrives with
  | waits slot mem => exact ⟨advanced_sound, advanced_follows, .waits _ mem⟩
  | ends final gone => exact ⟨advanced_sound, advanced_follows, .ends final gone⟩
  | dials mem =>
      obtain ⟨dialed_sound, dialed_follows, stands⟩ := advanced_sound.dial mem network
      exact ⟨dialed_sound, advanced_follows.trans dialed_follows, stands⟩

/-! ## Handing a connection over -/

theorem Follows.lease (pool : TcpPool) (id slot connection : Nat) :
    pool.Follows (pool.lease id slot connection) id := by
  have changed : pool.Follows (pool.changeSlot slot (·.lease id connection)) id :=
    .updateSlot fun _ _ _ => rfl
  have retained : pool.Follows ((pool.changeSlot slot (·.lease id connection)).retain slot) id :=
    changed.trans (.updateSlot fun _ _ _ => rfl)
  exact retained.trans (.leave _ id slot)

theorem Follows.endLease (pool : TcpPool) (id slot connection : Nat) :
    pool.Follows (pool.endLease slot connection) id := by
  have changed : pool.Follows (pool.changeSlot slot (·.endLease connection)) id :=
    .updateSlot fun kept _ _ => kept.slot.endLease_terms connection
  exact changed.trans (.updateSlot fun _ _ _ => rfl)

/-- Dropping a connection ends its lease. -/
theorem Sound.endLease {leased : LeasedConnection} (sound : pool.Sound (leased :: connections)) :
    (pool.endLease leased.slot leased.id).Sound connections := by
  obtain ⟨kept, kept_mem, same_slot, _⟩ :=
    sound.ledger.connection_slot leased List.mem_cons_self
  have slots_perm := Identity.perm_cons_others sound.ledger.slots_distinct kept_mem
  have ledger := sound.ledger.perm slots_perm (.refl _) (.refl _)
  have backs := ledger.accounted kept List.mem_cons_self
  rw [KeptSlot.Accounted, LeasedConnection.idsOf_cons_self same_slot.symm] at backs
  have terms_eq := kept.slot.endLease_terms leased.id
  have one_less : (kept.update (·.endLease leased.id) (· - 1)).Accounted pool.limits pool.tasks
      connections := by
    refine backs.update terms_eq backs.serves.endLease ?_
    rw [backs.references_eq, List.length_cons]
    exact Nat.add_sub_cancel (_ + _) 1
  have ended : Ledger pool.limits (kept.update (·.endLease leased.id) (· - 1) :: _) pool.tasks
      connections :=
    ledger.endLease same_slot.symm rfl (congrArg Slot.Terms.endpoint terms_eq) one_less
  have ended_perm : (pool.endLease kept.id leased.id).slots.Perm
      (kept.update (·.endLease leased.id) (· - 1) :: _) :=
    updateSlot_perm (updateSlot_perm slots_perm ledger.apart) ledger.apart
  rw [← same_slot]
  exact ⟨ended.perm ended_perm.symm (.refl _) (.refl _),
    updateSlot_below (updateSlot_below sound.slots_below)⟩

theorem Sound.countEstablished (sound : pool.Sound connections) :
    pool.countEstablished.Sound connections :=
  ⟨sound.ledger, sound.slots_below⟩

theorem Follows.countEstablished (pool : TcpPool) (id : Nat) :
    pool.Follows pool.countEstablished id :=
  ⟨rfl, rfl, Nat.le_refl _, fun kept mem => Or.inl ⟨kept, mem, rfl, rfl⟩, fun _ _ => Iff.rfl⟩

/-- A task has had its turn, and the requester has got what came of it. -/
structure Turned (pool : TcpPool) (connections : List LeasedConnection) (task : ServeTask)
    (connection : Nat) (handoff : Handoff Nat) (turn : Turn) : Prop where
  sound : turn.pool.Sound (turn.result.made connection task.endpoint ++ connections)
  follows : pool.Follows turn.pool task.id
  proper : turn.handoff.Proper
  /-- The connection that was made is on its way to the requester. -/
  carried : turn.handoff.connection? = turn.result.leasedFrom?.map fun _ => connection
  /-- The task waits and the pool has not answered, or both are over. -/
  rests : (turn.handoff = handoff ∧ turn.result.answer? connection = none ∧
      ∃ stage, { task with stage } ∈ turn.pool.tasks) ∨
    (turn.handoff.sender ≠ .held ∧ ∀ other ∈ turn.pool.tasks, other.id ≠ task.id)
  /-- A closed pool hands no connection over. -/
  closed_refuses : pool.closed = true →
    turn.result.leasedFrom? = none ∧
      ∀ other, turn.result.answer? connection ≠ some (.ok other)

theorem connection_of_error {error : ConnectError} (route : Handoff.Route)
    (proper : handoff.Proper) (held : handoff.sender = .held) :
    (handoff.resolve route (.error error)).1.connection? = none := by
  rw [Handoff.connection?, Handoff.resolve_carried route _ proper held]
  split <;> rfl

theorem Turned.refuseLate {leasing : TcpPool}
    (sound : leasing.Sound ({ id := connection, endpoint := task.endpoint, slot } :: connections))
    (follows : pool.Follows leasing task.id)
    (gone : ∀ other ∈ leasing.tasks, other.id ≠ task.id) (route : Handoff.Route)
    (protocol : Http.Version) (proper : handoff.Proper) (held : handoff.sender = .held) :
    pool.Turned connections task connection handoff
      (leasing.refuseLate handoff route slot connection protocol) where
  sound := sound.countFailure.endLease
  follows := (follows.trans (.countFailure _ _)).trans (.endLease _ _ _ _)
  proper := handoff.resolve_proper route _ proper held
  carried := connection_of_error route proper held
  rests := Or.inr ⟨handoff.resolve_sender_ne_held route _, gone⟩
  closed_refuses := by
    refine fun _ => ⟨rfl, fun other => ?_⟩
    rw [TcpPool.refuseLate, TurnResult.answer?]
    split <;> nofun

theorem Turned.offer {leasing : TcpPool}
    (sound : leasing.Sound ({ id := connection, endpoint := task.endpoint, slot } :: connections))
    (follows : pool.Follows leasing task.id)
    (gone : ∀ other ∈ leasing.tasks, other.id ≠ task.id) (route : Handoff.Route)
    (protocol : Http.Version) (proper : handoff.Proper) (held : handoff.sender = .held)
    (is_open : pool.closed = false) :
    pool.Turned connections task connection handoff
      (leasing.offer handoff route slot connection protocol) := by
  have carried := Handoff.resolve_carried route (.ok connection) proper held
  have resolved_proper := handoff.resolve_proper route (.ok connection) proper held
  have not_held := handoff.resolve_sender_ne_held route (.ok connection)
  rw [TcpPool.offer]
  generalize handoff.resolve route (.ok connection) = resolved at carried resolved_proper not_held
  obtain ⟨resolved, reception⟩ := resolved
  have counted : ∃ counting : TcpPool,
      (if reception.accepted then leasing.countEstablished else leasing) = counting ∧
        counting.Sound ({ id := connection, endpoint := task.endpoint, slot } :: connections) ∧
        pool.Follows counting task.id ∧ counting.tasks = leasing.tasks := by
    split
    · exact ⟨_, rfl, sound.countEstablished, follows.trans (.countEstablished _ _), rfl⟩
    · exact ⟨_, rfl, sound, follows, rfl⟩
  obtain ⟨counting, equation, counting_sound, counting_follows, same_tasks⟩ := counted
  dsimp only at carried resolved_proper not_held ⊢
  rw [equation]
  rw [← same_tasks] at gone
  refine ⟨?_, ?_, resolved_proper, ?_, ?_, fun closed => absurd closed (by simp [is_open])⟩
  · cases kept : reception.kept with
    | true =>
        simp only [TurnResult.made, TurnResult.leasedFrom?, kept]
        exact counting_sound
    | false =>
        simp only [TurnResult.made, TurnResult.leasedFrom?, kept]
        exact counting_sound.endLease
  · split
    · exact counting_follows
    · exact counting_follows.trans (.endLease _ _ _ _)
  · rw [Handoff.connection?, carried, TurnResult.leasedFrom?]
    split <;> rfl
  · refine Or.inr ⟨not_held, ?_⟩
    split
    · exact gone
    · exact gone

/-- A turn keeps the ledger in order, whatever comes of it. -/
theorem Sound.turn (sound : pool.Sound connections) (mem : task ∈ pool.tasks)
    (fresh : ∀ other ∈ connections, other.id ≠ connection) (proper : handoff.Proper)
    (held : handoff.sender = .held) (network : Network) (look : FirstLook)
    (route : Handoff.Route) :
    pool.Turned connections task connection handoff
      (pool.turn network look route task.id connection handoff) := by
  obtain ⟨polled_sound, polled_follows, stands⟩ :=
    sound.poll mem network look (.ofHandoff handoff)
  have nothing : handoff.connection? = none := by
    rw [Handoff.connection?, proper.carried_of_held held]
    rfl
  rw [TcpPool.turn]
  generalize pool.poll network look (.ofHandoff handoff) task.id = result
    at polled_sound polled_follows stands
  obtain ⟨polled, served⟩ := result
  cases stands with
  | waits stage mem =>
      exact ⟨polled_sound, polled_follows, proper, nothing, Or.inl ⟨rfl, rfl, stage, mem⟩,
        fun _ => ⟨rfl, by simp [TurnResult.answer?]⟩⟩
  | connects mem =>
      rename_i slot protocol
      obtain ⟨kept, kept_mem, rfl, _⟩ := polled_sound.ledger.task_slot _ mem slot rfl
      have leased : (polled.lease task.id kept.id connection).Sound
          ({ id := connection, endpoint := task.endpoint, slot := kept.id } :: connections) :=
        polled_sound.lease kept_mem mem rfl
          { id := connection, endpoint := task.endpoint, slot := kept.id } rfl rfl fresh
      have leased_follows := polled_follows.trans (.lease polled task.id kept.id connection)
      have gone : ∀ other ∈ (polled.lease task.id kept.id connection).tasks,
          other.id ≠ task.id := endTask_gone _ _
      dsimp only
      split
      · exact Turned.refuseLate leased leased_follows gone route protocol proper held
      · rename_i not_closed
        have is_open : pool.closed = false := by
          rw [← leased_follows.closed_eq]
          simpa using not_closed
        exact Turned.offer leased leased_follows gone route protocol proper held is_open
  | ends final gone =>
      have silent : pool.Turned connections task connection handoff
          ⟨polled, handoff.dropSender.1, .silent⟩ := by
        refine ⟨polled_sound, polled_follows, proper.dropSender.proper, ?_,
          Or.inr ⟨?_, gone⟩, fun _ => ⟨rfl, by simp [TurnResult.answer?]⟩⟩
        · rw [Handoff.connection?, proper.dropSender.carried_of_held proper held]
          rfl
        · simp [handoff.dropSender_sender]
      cases served with
      | waiting => cases final
      | connected slot protocol => cases final
      | givenUp => exact silent
      | crashed => exact silent
      | failed error =>
          refine ⟨polled_sound, polled_follows, handoff.resolve_proper route _ proper held,
            connection_of_error route proper held,
            Or.inr ⟨handoff.resolve_sender_ne_held route _, gone⟩, fun _ => ⟨rfl, ?_⟩⟩
          intro other
          dsimp only [TurnResult.answer?]
          split <;> simp

/-- Without a task there is nothing to do. -/
theorem turn_of_no_task (absent : pool.task? id = none) (network : Network) (look : FirstLook)
    (route : Handoff.Route) (handoff : Handoff Nat) :
    pool.turn network look route id connection handoff = ⟨pool, handoff, .waiting⟩ := by
  rw [TcpPool.turn, TcpPool.poll, absent]

/-- A connection on its way has been accepted by the requester. -/
theorem TurnResult.answer_of_leasedFrom {result : TurnResult}
    (leased_from : result.leasedFrom? = some slot) :
    result.answer? connection = some (.ok connection) := by
  cases result with
  | opened from_slot protocol reception =>
      cases reception with
      | arrived => rfl
      | underWay => rfl
      | returned answer => cases leased_from
      | dropped answer => cases leased_from
  | waiting => cases leased_from
  | silent => cases leased_from
  | failed error reception => cases leased_from
  | late protocol reception => cases leased_from

/-! ## Shutting down -/

theorem shutdown_of_closed (closed : pool.closed = true) : pool.shutdown = (pool, []) := by
  rw [TcpPool.shutdown, if_pos closed]

theorem shutdown_of_open (is_open : pool.closed = false) :
    pool.shutdown =
      ({ pool with
          closed := true
          slots := pool.slots.map fun kept => { kept with slot := kept.slot.close.1 } },
        pool.slots.flatMap fun kept => kept.slot.close.2) := by
  rw [TcpPool.shutdown, if_neg (by simp [is_open])]

@[simp]
theorem shutdown_closed (pool : TcpPool) : pool.shutdown.1.closed = true := by
  cases closed : pool.closed with
  | true => rw [shutdown_of_closed closed, closed]
  | false => rw [shutdown_of_open closed]

@[simp]
theorem shutdown_tasks (pool : TcpPool) : pool.shutdown.1.tasks = pool.tasks := by
  cases closed : pool.closed with
  | true => rw [shutdown_of_closed closed]
  | false => rw [shutdown_of_open closed]

theorem Sound.shutdown (sound : pool.Sound connections) : pool.shutdown.1.Sound connections := by
  cases closed : pool.closed with
  | true =>
      rw [shutdown_of_closed closed]
      exact sound
  | false =>
      rw [shutdown_of_open closed]
      refine ⟨sound.ledger.close, ?_⟩
      intro kept mem
      obtain ⟨found, found_mem, rfl⟩ := List.mem_map.mp mem
      exact sound.slots_below found found_mem

/-- A shutdown reaches every connection with a lease. -/
theorem Sound.shutdown_reaches (sound : pool.Sound connections) (is_open : pool.closed = false)
    {leased : LeasedConnection} (mem : leased ∈ connections) : leased.id ∈ pool.shutdown.2 := by
  obtain ⟨kept, kept_mem, same_slot, _⟩ := sound.ledger.connection_slot leased mem
  have backs := sound.ledger.accounted kept kept_mem
  rw [KeptSlot.Accounted, same_slot] at backs
  rw [shutdown_of_open is_open]
  refine List.mem_flatMap.mpr ⟨kept, kept_mem, ?_⟩
  exact backs.serves.live_perm.mem_iff.mpr (LeasedConnection.mem_idsOf mem)

end Courier.TcpPool
