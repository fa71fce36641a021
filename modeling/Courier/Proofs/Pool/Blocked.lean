import Courier.Proofs.Pool.Closed
import Courier.Proofs.Pool.Requests

/-!
# Pools at rest

A pool is at rest when none of its tasks can do anything before somebody else acts.  Then whoever
is queued still holds his side of the request.  He may have given up nevertheless: a queued task
does not look at that, so it keeps its place, and a newcomer can find the queue full because of it.
-/

namespace Courier

namespace TcpPool

variable {pool : TcpPool} {connections : List LeasedConnection} {kept : KeptSlot}
  {task : ServeTask} {view : RequesterView} {look : FirstLook} {id slot : Nat}
  {handoff : Handoff Nat}

/-- The task of a request can do nothing, whatever it looks at first, while the network does not
answer. -/
def Blocked (pool : TcpPool) (view : RequesterView) (id : Nat) : Prop :=
  ∀ look, pool.poll (fun _ => .pending) look view id = (pool, .waiting)

/-- Why a task can do nothing: it waits for the network, or for a permit of an open slot, and its
requester has not dropped its side. -/
inductive Stuck (pool : TcpPool) (view : RequesterView) (task : ServeTask) : Prop
  | dialing {slot : Nat} (stage_eq : task.stage = .dialing slot)
  | queued {kept : KeptSlot} (mem : kept ∈ pool.slots) (stage_eq : task.stage = .queued kept.id)
      (is_open : kept.slot.closed = false) (unassigned : ⟨task.id, false⟩ ∈ kept.slot.queue)
      (listening : view.dropped = false)

theorem blocked_of_no_task (absent : pool.task? id = none) : pool.Blocked view id := by
  intro look
  rw [poll, absent]

/-- A task that is moved to where it is stays there. -/
theorem Sound.moveTask_self (sound : pool.Sound connections) (mem : task ∈ pool.tasks) :
    pool.moveTask task.id task.stage = pool := by
  have same : pool.tasks.map (fun other =>
      if other.id == task.id then { other with stage := task.stage } else other) = pool.tasks :=
    Identity.map_eq_self sound.ledger.tasks_distinct mem rfl
  rw [TcpPool.moveTask, same]

theorem Sound.polling_self (sound : pool.Sound connections) (mem : kept ∈ pool.slots)
    (pending : kept.slot.poll id = (kept.slot, .pending)) : pool.polling kept id = pool := by
  have same : pool.slots.map (fun other =>
      if other.id == kept.id then other.update (fun _ => kept.slot) (fun references => references)
      else other) = pool.slots :=
    Identity.map_eq_self sound.ledger.slots_distinct mem rfl
  rw [TcpPool.polling, pending, changeSlot, updateSlot, same]

/-- Whoever is queued without a permit at an open slot waits on. -/
theorem Sound.poll_pending (sound : pool.Sound connections) (mem : kept ∈ pool.slots)
    (is_open : kept.slot.closed = false) (unassigned : ⟨id, false⟩ ∈ kept.slot.queue) :
    kept.slot.poll id = (kept.slot, .pending) := by
  have ids_distinct : (kept.slot.queue.map (·.id)).Nodup :=
    (sound.ledger.accounted kept mem).serves.queue_perm.nodup_iff.mpr
      (ServeTask.idsAt_nodup sound.ledger.tasks_distinct _)
  obtain ⟨closed, _⟩ | ⟨_, has_permit, _⟩ | ⟨_, _, poll_eq⟩ :=
    Slot.poll_cases (Identity.find_of_mem ids_distinct unassigned)
  · cases is_open.symm.trans closed
  · cases has_permit
  · exact poll_eq

/-- A task that goes on waiting for a permit changes nothing. -/
theorem Sound.resume_pending (sound : pool.Sound connections) (kept_mem : kept ∈ pool.slots)
    (mem : task ∈ pool.tasks) (stage_eq : task.stage = .queued kept.id)
    (pending : kept.slot.poll task.id = (kept.slot, .pending)) (listening : view.dropped = false)
    (look : FirstLook) : pool.resume look view task.id kept.id = (pool, .error .waiting) := by
  obtain ⟨_, dropped, equation⟩ | ⟨_, equation⟩ := resume_cases (sound.slot_of_id kept_mem)
  · cases listening.symm.trans dropped
  · rw [equation, sound.polling_self kept_mem pending, pending, TcpPool.afterReservation,
      if_neg (by simp [listening]), ← stage_eq, sound.moveTask_self mem]

theorem Sound.blocked_of_stuck (sound : pool.Sound connections) (mem : task ∈ pool.tasks)
    (stuck : pool.Stuck view task) : pool.Blocked view task.id := by
  intro look
  rw [TcpPool.poll, task_of_mem sound mem]
  cases stuck with
  | dialing stage_eq => simp only [TcpPool.advance, stage_eq, TcpPool.dial]
  | queued kept_mem stage_eq is_open unassigned listening =>
      have pending := sound.poll_pending kept_mem is_open unassigned
      simp only [TcpPool.advance, stage_eq,
        sound.resume_pending kept_mem mem stage_eq pending listening]

/-! ## Why a task is blocked -/

theorem afterReservation_waits {answer : Slot.Answer}
    (waits : (pool.afterReservation view id slot answer).2 = .error .waiting) :
    answer = .pending ∧ view.dropped = false := by
  cases answer with
  | failed error => cases waits
  | granted =>
      rw [afterReservation] at waits
      split at waits <;> cases waits
  | pending =>
      rw [afterReservation] at waits
      split at waits
      · cases waits
      · rename_i listening
        exact ⟨rfl, by simpa using listening⟩

/-- A blocked task stays where it is: it dials, or goes on waiting in the queue. -/
theorem Sound.advance_of_blocked (sound : pool.Sound connections) (mem : task ∈ pool.tasks)
    (blocked : pool.Blocked view task.id) (look : FirstLook) :
    (∃ slot, task.stage = .dialing slot) ∨
      (∃ slot, task.stage = .queued slot) ∧
        pool.advance look view task = (pool, .error .waiting) := by
  have poll_eq := blocked look
  have arrives := (sound.advance mem look view).arrives
  rw [TcpPool.poll, task_of_mem sound mem] at poll_eq
  have stage_of_mem : ∀ {stage}, { task with stage } ∈ pool.tasks → task.stage = stage :=
    fun moved => (congrArg ServeTask.stage
      (Identity.eq_of_identity sound.ledger.tasks_distinct moved mem rfl)).symm
  dsimp only at poll_eq
  generalize pool.advance look view task = result at poll_eq arrives
  obtain ⟨after, arrival⟩ := result
  cases arrives with
  | waits slot moved =>
      obtain ⟨rfl, _⟩ := Prod.mk.inj poll_eq
      exact Or.inr ⟨⟨slot, stage_of_mem moved⟩, rfl⟩
  | ends final _ =>
      obtain ⟨_, rfl⟩ := Prod.mk.inj poll_eq
      cases final
  | dials moved =>
      obtain ⟨rfl, _⟩ := Prod.mk.inj poll_eq
      exact Or.inl ⟨_, stage_of_mem moved⟩

/-- A task is blocked exactly if it is stuck: it does not look at a requester that has given up and
keeps its side. -/
theorem Sound.blocked_iff (sound : pool.Sound connections) (mem : task ∈ pool.tasks) :
    pool.Blocked view task.id ↔ pool.Stuck view task := by
  refine ⟨fun blocked => ?_, sound.blocked_of_stuck mem⟩
  obtain ⟨slot, dialing⟩ | ⟨⟨slot, queued⟩, advance_eq⟩ :=
    sound.advance_of_blocked mem blocked .requester
  · exact .dialing dialing
  · obtain ⟨kept, kept_mem, rfl, _⟩ := sound.ledger.task_slot task mem slot (by rw [queued]; rfl)
    obtain ⟨others, rest, focus, accounted⟩ :=
      sound.focus_user kept_mem mem (by rw [queued]; rfl)
    obtain ⟨reservation, _, found, _, _⟩ :=
      (accounted_queued queued accounted).serves.find_reservation (focus.id_new _)
    rw [TcpPool.advance, queued] at advance_eq
    dsimp only at advance_eq
    obtain ⟨_, _, equation⟩ | ⟨_, equation⟩ := resume_cases (sound.slot_of_id kept_mem)
    · rw [equation] at advance_eq
      cases (Prod.mk.inj advance_eq).2
    · rw [equation] at advance_eq
      obtain ⟨pending, listening⟩ := afterReservation_waits (congrArg Prod.snd advance_eq)
      obtain ⟨_, poll_eq⟩ | ⟨_, _, poll_eq⟩ | ⟨is_open, no_permit, poll_eq⟩ :=
        Slot.poll_cases found
      · rw [poll_eq] at pending
        cases pending
      · rw [poll_eq] at pending
        cases pending
      · refine .queued kept_mem queued is_open ?_ listening
        obtain ⟨reservation_mem, same_id⟩ := Identity.mem_of_find found
        rw [← same_id, ← no_permit]
        exact reservation_mem

/-- Whoever is in the queue of a slot has a task that waits there. -/
theorem Sound.task_of_reservation (sound : pool.Sound connections) (kept_mem : kept ∈ pool.slots)
    {reservation : Reservation} (mem : reservation ∈ kept.slot.queue) :
    ∃ task ∈ pool.tasks, task.id = reservation.id ∧ task.stage = .queued kept.id := by
  have queued := (sound.ledger.accounted kept kept_mem).serves.queue_perm.mem_iff.mp
    (List.mem_map_of_mem mem)
  obtain ⟨task, here, same_id⟩ := List.mem_map.mp queued
  obtain ⟨task_mem, stage_eq⟩ := List.mem_filter.mp here
  exact ⟨task, task_mem, same_id, eq_of_beq stage_eq⟩

/-! ## Newcomers -/

/-- The first turn of a task at a slot that somebody uses fails for want of room exactly if the
slot has no free permit and as many are queued as may be. -/
theorem Sound.start_exhausted_iff (sound : pool.Sound connections)
    (found : pool.slotOf? task.endpoint = some kept) (in_use : kept.references ≠ 1)
    (is_open : kept.slot.closed = false) (wanted : view.cancelled = false)
    (listening : view.dropped = false) :
    (pool.start view task).2 = .error (.failed kept.slot.exhausted) ↔
      kept.slot.free = 0 ∧ kept.slot.waiting ≥ kept.slot.maxWaiters := by
  have still_kept := sound.slotOf_evictIdle.mpr ⟨found, in_use⟩
  obtain ⟨cancelled, _⟩ | ⟨_, _, absent, _⟩ | ⟨_, _, opened, kept', ensured, equation⟩ :=
    pool.start_cases view task
  · cases wanted.symm.trans cancelled
  · cases absent.symm.trans still_kept
  · rw [ensureSlot_of_found still_kept] at ensured
    obtain ⟨rfl, rfl⟩ := Prod.mk.inj ensured
    rw [equation]
    obtain ⟨closed, _⟩ | ⟨_, free, reserve_eq⟩ | ⟨_, none_free, full, reserve_eq⟩ |
      ⟨_, none_free, room, reserve_eq⟩ := kept.slot.reserve_cases task.id
    · cases is_open.symm.trans closed
    · simp [reserve_eq, TcpPool.afterReservation, wanted, Nat.ne_of_gt free]
    · simp [reserve_eq, TcpPool.afterReservation, none_free, full]
    · simp [reserve_eq, TcpPool.afterReservation, listening, none_free, Nat.not_le.mpr room]

theorem Sound.poll_exhausted_iff (sound : pool.Sound connections) (mem : task ∈ pool.tasks)
    (spawned : task.stage = .spawned) (found : pool.slotOf? task.endpoint = some kept)
    (in_use : kept.references ≠ 1) (is_open : kept.slot.closed = false)
    (wanted : view.cancelled = false) (listening : view.dropped = false) (look : FirstLook) :
    (pool.poll (fun _ => .pending) look view task.id).2 = .failed kept.slot.exhausted ↔
      kept.slot.free = 0 ∧ kept.slot.waiting ≥ kept.slot.maxWaiters := by
  rw [← sound.start_exhausted_iff found in_use is_open wanted listening, TcpPool.poll,
    task_of_mem sound mem]
  simp only [TcpPool.advance, spawned]
  generalize pool.start view task = result
  obtain ⟨after, served | slot⟩ := result
  · simp
  · simp [TcpPool.dial]

end TcpPool

/-! ## Requesters that linger -/

theorem Handoff.take_listening {κ : Type} (handoff : Handoff κ) :
    handoff.take.1.listening = handoff.listening := by
  rw [take]
  split <;> rfl

theorem Handoff.resolve_listening {κ : Type} (handoff : Handoff κ) (route : Handoff.Route)
    (answer : Answer κ) : (handoff.resolve route answer).1.listening = handoff.listening := by
  obtain ⟨_, equation⟩ | ⟨_, _, equation⟩ | ⟨_, _, equation⟩ | ⟨_, _, equation⟩ :=
    handoff.resolve_cases route answer <;> rw [equation]

/-- Both sides see the same of the requester as before. -/
def Handoff.SameRequester (before after : Handoff Nat) : Prop :=
  after.isCancelled = before.isCancelled ∧ after.listening = before.listening

theorem TcpPool.turn_sameRequester (pool : TcpPool) (network : Network) (look : FirstLook)
    (route : Handoff.Route) (id connection : Nat) (handoff : Handoff Nat) :
    handoff.SameRequester (pool.turn network look route id connection handoff).handoff := by
  have resolved : ∀ answer, handoff.SameRequester (handoff.resolve route answer).1 := fun answer =>
    ⟨handoff.resolve_isCancelled route answer, handoff.resolve_listening route answer⟩
  have silent : handoff.SameRequester handoff.dropSender.1 :=
    ⟨handoff.dropSender_isCancelled, handoff.dropSender_listening⟩
  rw [turn]
  split
  · exact ⟨rfl, rfl⟩
  · exact silent
  · exact silent
  · exact resolved _
  · dsimp only
    split
    · exact resolved _
    · exact resolved _

/-- A requester has given up and keeps its side. -/
def Requester.Lingers (requester : Requester) : Prop :=
  requester.handoff.isCancelled = true ∧ requester.handoff.listening = true

namespace Service

variable {service : Service} {requester : Requester} {actions : List Action}

/-- Whoever lingers has given up by one of these actions. -/
def Accountable (service : Service) (actions : List Action) : Prop :=
  ∀ requester ∈ service.requesters, requester.Lingers → .cancel requester.id ∈ actions

theorem lingers_of_shift {action : Action} {told : Requester}
    (shift : service.Shift action requester told) (lingers : told.Lingers) :
    action = .cancel told.id ∨ told.id = requester.id ∧ requester.Lingers := by
  obtain ⟨cancelled, listening⟩ := lingers
  cases shift with
  | stays => exact Or.inr ⟨rfl, cancelled, listening⟩
  | cancels => exact Or.inl rfl
  | forsakes => cases listening
  | delivers =>
      exact Or.inr ⟨rfl, requester.handoff.publish_isCancelled.symm.trans cancelled,
        requester.handoff.publish_listening.symm.trans listening⟩
  | discards =>
      exact Or.inr ⟨rfl, requester.handoff.dropSender_isCancelled.symm.trans cancelled,
        requester.handoff.dropSender_listening.symm.trans listening⟩
  | looks =>
      exact Or.inr ⟨rfl, requester.handoff.take_isCancelled.symm.trans cancelled,
        requester.handoff.take_listening.symm.trans listening⟩

/-- A new requester has not given up. -/
theorem submit_newcomer (service : Service) (runtime : Bool) (endpoint : Endpoint)
    (protocol : Http.Version) (context : Option Nat) :
    ∃ newcomer : Requester, newcomer.handoff.isCancelled = false ∧
      (service.submit runtime endpoint protocol context).requesters =
        service.requesters ++ [newcomer] := by
  rw [submit]
  dsimp only
  split
  · exact ⟨_, rfl, rfl⟩
  · exact ⟨_, Handoff.resolve_isCancelled _ _ _, rfl⟩

theorem Valid.accountable_step (valid : service.Valid) (accountable : service.Accountable actions)
    (action : Action) : (service.step action).Accountable (actions ++ [action]) := by
  have earlier : ∀ requester ∈ service.requesters, requester.Lingers →
      .cancel requester.id ∈ actions ++ [action] := fun requester mem lingers =>
    List.mem_append_left _ (accountable requester mem lingers)
  have shifted (no_turn : ∀ request look dialed, action ≠ .serve request look dialed)
      (no_request : ∀ runtime endpoint protocol context,
        action ≠ .submit runtime endpoint protocol context) :
      (service.step action).Accountable (actions ++ [action]) := by
    intro told told_mem lingers
    obtain ⟨requester, mem, shift⟩ := valid.step_shift no_turn no_request told_mem
    rcases lingers_of_shift shift lingers with now | ⟨same_id, lingered⟩
    · exact List.mem_append_right _ (by simp [now])
    · rw [same_id]
      exact earlier requester mem lingered
  cases action with
  | submit runtime endpoint protocol context =>
      intro told told_mem lingers
      obtain ⟨newcomer, wanted, requesters_eq⟩ :=
        service.submit_newcomer runtime endpoint protocol context
      rw [Service.step, requesters_eq] at told_mem
      rcases List.mem_append.mp told_mem with old | is_new
      · exact earlier told old lingers
      · obtain rfl := List.mem_singleton.mp is_new
        cases wanted.symm.trans lingers.1
  | serve request look dialed =>
      intro told told_mem lingers
      rcases valid.serve_cases request look dialed with
        same | later | ⟨requester, mem, task, _, rfl, _⟩
      · rw [Service.step, same] at told_mem
        exact earlier told told_mem lingers
      · rw [Service.step, later] at told_mem
        exact earlier told told_mem lingers
      · have perm := valid.serve_requesters mem look dialed
        rcases List.mem_cons.mp (perm.mem_iff.mp told_mem) with rfl | other
        · obtain ⟨cancelled_eq, listening_eq⟩ := service.pool.turn_sameRequester (fun _ => dialed)
            look (service.route requester.context) requester.id service.next requester.handoff
          exact earlier requester mem
            ⟨cancelled_eq.symm.trans lingers.1, listening_eq.symm.trans lingers.2⟩
        · exact earlier told (Identity.mem_of_mem_others other) lingers
  | cancel | forsake | deliver | look | discard | dropConnection | closeContext | shutdown =>
      exact shifted (by simp) (by simp)

theorem Valid.accountable_run (valid : service.Valid) (accountable : service.Accountable actions)
    (later : List Action) : (service.run later).Accountable (actions ++ later) := by
  induction later generalizing service actions with
  | nil =>
      rw [List.append_nil]
      exact accountable
  | cons action rest induction =>
      have done := induction (valid.step action) (valid.accountable_step accountable action)
      rw [List.append_assoc] at done
      exact done

/-! ## At rest -/

/-- Nothing happens before somebody acts who is no task, or the network answers. -/
def AtRest (service : Service) : Prop :=
  ∀ requester ∈ service.requesters,
    service.pool.Blocked (.ofHandoff requester.handoff) requester.id

theorem Valid.stuck_of_task (valid : service.Valid) (at_rest : service.AtRest)
    (mem : requester ∈ service.requesters) {task : ServeTask} (task_mem : task ∈ service.pool.tasks)
    (same_id : task.id = requester.id) :
    service.pool.Stuck (.ofHandoff requester.handoff) task := by
  have blocked := at_rest requester mem
  rw [← same_id] at blocked
  exact (valid.sound.blocked_iff task_mem).mp blocked

/-- Whoever is queued in a pool at rest holds his side of the request, and waits at an open slot. -/
theorem Valid.requester_of_reservation (valid : service.Valid) (at_rest : service.AtRest)
    {kept : KeptSlot} (kept_mem : kept ∈ service.pool.slots) {reservation : Reservation}
    (mem : reservation ∈ kept.slot.queue) :
    ∃ requester ∈ service.requesters, requester.id = reservation.id ∧
      requester.endpoint = kept.slot.endpoint ∧ requester.handoff.listening = true ∧
      kept.slot.closed = false := by
  obtain ⟨task, task_mem, task_id, stage_eq⟩ := valid.sound.task_of_reservation kept_mem mem
  obtain ⟨requester, requester_mem, same_id, endpoint_eq, _⟩ :=
    valid.attended.awaited task task_mem
  have kept_endpoint := valid.sound.ledger.endpoint_of_task kept_mem task_mem
    (by rw [stage_eq]; rfl)
  refine ⟨requester, requester_mem, same_id.trans task_id, endpoint_eq.trans kept_endpoint.symm,
    ?_⟩
  cases valid.stuck_of_task at_rest requester_mem task_mem same_id.symm with
  | dialing dials => cases stage_eq.symm.trans dials
  | queued other_mem other_stage is_open _ listening =>
      have other_id := ServeStage.queued.inj (stage_eq.symm.trans other_stage)
      obtain rfl := valid.sound.eq_of_id other_mem kept_mem other_id
      exact ⟨by simpa [TcpPool.RequesterView.ofHandoff] using listening, is_open⟩

/-- A requester that gives up and keeps its side disturbs nobody. -/
theorem Valid.cancel_at_rest (valid : service.Valid) (at_rest : service.AtRest) (id : Nat) :
    (service.step (.cancel id)).pool = service.pool ∧ (service.step (.cancel id)).AtRest := by
  have pool_eq : (service.step (.cancel id)).pool = service.pool := by
    rw [Service.step, Service.changeHandoff]
    split <;> rfl
  refine ⟨pool_eq, ?_⟩
  intro told told_mem
  rw [pool_eq]
  rcases mem_changeHandoff_cases told_mem with old | ⟨requester, mem, rfl, rfl⟩
  · exact at_rest told old
  · cases absent : service.pool.task? requester.id with
    | none => exact TcpPool.blocked_of_no_task absent
    | some task =>
        obtain ⟨task_mem, task_id⟩ := Identity.mem_of_find absent
        have stuck := valid.stuck_of_task at_rest mem task_mem task_id
        dsimp only
        rw [← task_id]
        refine valid.sound.blocked_of_stuck task_mem ?_
        cases stuck with
        | dialing stage_eq => exact .dialing stage_eq
        | queued kept_mem stage_eq is_open unassigned listening =>
            exact .queued kept_mem stage_eq is_open unassigned listening

/-- What the first turn of a new request comes to while the network does not answer. -/
def firstTurn (service : Service) (endpoint : Endpoint) (protocol : Http.Version)
    (context : Option Nat) (look : TcpPool.FirstLook) : TcpPool.Served :=
  ((service.submit true endpoint protocol context).pool.poll (fun _ => .pending) look
    (.ofHandoff {}) service.next).2

theorem Valid.no_next_task (valid : service.Valid) : service.pool.task? service.next = none := by
  refine List.find?_eq_none.mpr fun task mem same => ?_
  obtain ⟨requester, requester_mem, same_id, _⟩ := valid.attended.awaited task mem
  have below := valid.roster.below requester requester_mem
  rw [same_id, eq_of_beq same] at below
  exact Nat.lt_irrefl _ below

/-- A newcomer is told that there is no room exactly if no permit is free and the queue is full,
whoever is in it. -/
theorem Valid.firstTurn_exhausted_iff (valid : service.Valid) {kept : KeptSlot}
    (kept_mem : kept ∈ service.pool.slots) (is_open : kept.slot.closed = false)
    (in_use : kept.references ≠ 1) (protocol : Http.Version) (context : Option Nat)
    (look : TcpPool.FirstLook) :
    service.firstTurn kept.slot.endpoint protocol context look = .failed kept.slot.exhausted ↔
      service.pool.closed = false ∧ kept.slot.free = 0 ∧
        kept.slot.waiting ≥ kept.slot.maxWaiters := by
  have found : service.pool.slotOf? kept.slot.endpoint = some kept :=
    Identity.find_of_mem valid.sound.ledger.endpoints_distinct kept_mem
  have asked := valid.submit true kept.slot.endpoint protocol context
  rw [firstTurn]
  cases closed : service.pool.closed with
  | true =>
      have refused : (service.submit true kept.slot.endpoint protocol context).pool =
          service.pool.countFailure := by
        simp only [Service.submit, TcpPool.submit, closed, if_true]
      have no_task : service.pool.countFailure.task? service.next = none := valid.no_next_task
      rw [refused, TcpPool.poll, no_task]
      simp
  | false =>
      let task : ServeTask := { id := service.next, endpoint := kept.slot.endpoint, protocol }
      have spawned : (service.submit true kept.slot.endpoint protocol context).pool =
          { service.pool with tasks := service.pool.tasks ++ [task] } := by
        simp [Service.submit, TcpPool.submit, closed, task]
      have sound := asked.sound
      rw [spawned] at sound ⊢
      have mem : task ∈ service.pool.tasks ++ [task] :=
        List.mem_append_right _ List.mem_cons_self
      rw [sound.poll_exhausted_iff mem rfl found in_use is_open rfl rfl look]
      simp

/-- In a pool at rest, whoever is counted as waiting for a permit is a requester that holds his side
of the request; so he has not given up unless he did so and kept it.  One who does that now wakes no
task and keeps his place, and a newcomer finds the queue full exactly if all its places are taken,
by whomever. -/
theorem run_queues_listeners (limits : PoolLimits) (tls : TlsOptions)
    (connector : Option Connector) (actions : List Action)
    (at_rest : ((start limits tls connector).run actions).AtRest) :
    let service := (start limits tls connector).run actions
    ∀ kept ∈ service.pool.slots,
      kept.slot.waiting = kept.slot.queue.length ∧
      (∀ reservation ∈ kept.slot.queue, ∃ requester ∈ service.requesters,
        requester.id = reservation.id ∧ requester.endpoint = kept.slot.endpoint ∧
          requester.handoff.listening = true ∧
          (requester.handoff.isCancelled = true → .cancel requester.id ∈ actions) ∧
          (service.step (.cancel requester.id)).pool = service.pool ∧
          (service.step (.cancel requester.id)).AtRest) ∧
      (kept.slot.queue ≠ [] → ∀ protocol context look,
        (service.firstTurn kept.slot.endpoint protocol context look =
            .failed (.poolExhausted kept.slot.endpoint.text limits.maxPoolSize.toNat
              limits.maxWaitQueueSize.toNat) ↔
          service.pool.closed = false ∧ kept.slot.free = 0 ∧
            kept.slot.queue.length = limits.maxWaitQueueSize.toNat)) := by
  intro service kept kept_mem
  have started := start_valid limits tls connector
  have valid : service.Valid := started.run actions
  have nobody : (start limits tls connector).Accountable [] :=
    fun _ mem => (List.not_mem_nil mem).elim
  have accountable : service.Accountable actions := started.accountable_run nobody actions
  have accounted := valid.sound.ledger.accounted kept kept_mem
  refine ⟨accounted.serves.waiting_eq, ?_, ?_⟩
  · intro reservation mem
    obtain ⟨requester, requester_mem, same_id, endpoint_eq, listening, _⟩ :=
      valid.requester_of_reservation at_rest kept_mem mem
    obtain ⟨pool_eq, still_at_rest⟩ := valid.cancel_at_rest at_rest requester.id
    exact ⟨requester, requester_mem, same_id, endpoint_eq, listening,
      fun cancelled => accountable requester requester_mem ⟨cancelled, listening⟩, pool_eq,
      still_at_rest⟩
  · intro somebody protocol context look
    obtain ⟨reservation, rest, queue_eq⟩ := List.exists_cons_of_ne_nil somebody
    have mem : reservation ∈ kept.slot.queue := by
      rw [queue_eq]
      exact List.mem_cons_self
    obtain ⟨_, _, _, _, _, is_open⟩ := valid.requester_of_reservation at_rest kept_mem mem
    obtain ⟨task, task_mem, _, stage_eq⟩ := valid.sound.task_of_reservation kept_mem mem
    have in_use := valid.sound.ledger.references_of_task kept_mem task_mem (by rw [stage_eq]; rfl)
    have limits_eq : service.pool.limits = limits := started.run_limits actions
    have exhausted_iff :=
      valid.firstTurn_exhausted_iff kept_mem is_open in_use protocol context look
    have waiting_le := accounted.serves.waiting_le
    have waiting_eq := accounted.serves.waiting_eq
    rw [Slot.exhausted, accounted.maxConnections_eq, accounted.maxWaiters_eq, limits_eq]
      at exhausted_iff
    rw [accounted.maxWaiters_eq, limits_eq] at waiting_le
    rw [exhausted_iff, ← waiting_eq]
    exact and_congr_right fun _ => and_congr_right fun _ =>
      ⟨fun full => Nat.le_antisymm waiting_le full, fun same => Nat.le_of_eq same.symm⟩

/-- A request that is served, and another one that is queued behind it and given up. -/
def lingering : List Action :=
  let peer : Endpoint := { host := "127.0.0.1", port := 7009, secure := false }
  [.submit true peer .http11 none, .serve 0 .reservation .connected,
    .submit true peer .http11 none, .serve 2 .reservation .pending, .cancel 2]

/-- A pool with one permit and room for one in its queue after these actions. -/
def crowded : Service :=
  (start { maxPoolSize := 1, maxWaitQueueSize := 1 } ⟨false, []⟩ none).run lingering

theorem crowded_at_rest : crowded.AtRest := by
  intro requester mem look
  have both : ∀ look, ∀ requester ∈ crowded.requesters,
      crowded.pool.poll (fun _ => .pending) look (.ofHandoff requester.handoff) requester.id =
        (crowded.pool, .waiting) := by
    intro look
    cases look <;> decide
  exact both look requester mem

/-- A newcomer finds the queue full because of somebody who has given up and keeps his side. -/
theorem newcomer_finds_crowd :
    crowded.AtRest ∧ ∃ kept ∈ crowded.pool.slots, kept.slot.waiting = 1 ∧
      crowded.firstTurn kept.slot.endpoint .http11 none .reservation =
        .failed (.poolExhausted kept.slot.endpoint.text 1 1) := by
  have taken : ∃ kept ∈ crowded.pool.slots, kept.slot.queue ≠ [] ∧ crowded.pool.closed = false ∧
      kept.slot.free = 0 ∧ kept.slot.queue.length = 1 := by decide
  obtain ⟨kept, mem, queued, full⟩ := taken
  obtain ⟨waiting_eq, _, exhausted_iff⟩ :=
    run_queues_listeners { maxPoolSize := 1, maxWaitQueueSize := 1 } ⟨false, []⟩ none lingering
      crowded_at_rest kept mem
  exact ⟨crowded_at_rest, kept, mem, waiting_eq.trans full.2.2,
    (exhausted_iff queued .http11 none .reservation).mpr full⟩

/-- Not everybody who is counted as waiting in a pool at rest still wants a connection. -/
theorem lingering_counted_as_waiting :
    ¬∀ (limits : PoolLimits) (tls : TlsOptions) (connector : Option Connector)
        (actions : List Action),
      ((start limits tls connector).run actions).AtRest →
        ∀ kept ∈ ((start limits tls connector).run actions).pool.slots,
          ∀ reservation ∈ kept.slot.queue,
            ∀ requester ∈ ((start limits tls connector).run actions).requesters,
              requester.id = reservation.id → requester.handoff.isCancelled = false := by
  intro claimed
  have wanted := claimed { maxPoolSize := 1, maxWaitQueueSize := 1 } ⟨false, []⟩ none lingering
    crowded_at_rest
  revert wanted
  change ¬∀ kept ∈ crowded.pool.slots, ∀ reservation ∈ kept.slot.queue,
    ∀ requester ∈ crowded.requesters,
      requester.id = reservation.id → requester.handoff.isCancelled = false
  decide

end Service

end Courier
