import Courier.Proofs.Pool.Frames

/-!
# The limits of a pool

The limits hold for every endpoint, however often its slot was forgotten and made again: whatever
uses a slot of an endpoint uses the one that the pool keeps for it.
-/

namespace Courier

theorem TcpPool.metrics_active (pool : TcpPool) :
    pool.metrics.activeConnections = (pool.slots.map (·.slot.active)).sum := by
  rw [List.sum_eq_foldr, List.foldr_map]
  rfl

namespace Service

open ServeTask (idsAt)
open LeasedConnection (idsOf)

variable {service : Service} {endpoint : Endpoint}

/-- Tasks that hold a permit of an endpoint and have no connection yet. -/
def dialing (service : Service) (endpoint : Endpoint) : List ServeTask :=
  service.pool.tasks.filter fun task =>
    task.endpoint == endpoint && (task.stage matches .dialing _)

/-- Tasks that wait for a permit of an endpoint. -/
def queued (service : Service) (endpoint : Endpoint) : List ServeTask :=
  service.pool.tasks.filter fun task =>
    task.endpoint == endpoint && (task.stage matches .queued _)

/-- Connections to an endpoint whose leases have not ended. -/
def leases (service : Service) (endpoint : Endpoint) : List LeasedConnection :=
  service.connections.filter (·.endpoint == endpoint)

/-- A slot is used for an endpoint: by a task or by a lease. -/
def Uses (service : Service) (endpoint : Endpoint) (slot : Nat) : Prop :=
  (∃ task ∈ service.pool.tasks, task.endpoint = endpoint ∧ task.stage.slot? = some slot) ∨
    ∃ leased ∈ service.connections, leased.endpoint = endpoint ∧ leased.slot = slot

/-- A slot that is used for an endpoint is the one that the pool keeps for it. -/
theorem Valid.slotOf_of_uses (valid : service.Valid) {slot : Nat}
    (uses : service.Uses endpoint slot) :
    ∃ kept, service.pool.slotOf? endpoint = some kept ∧ kept.id = slot := by
  have ledger := valid.sound.ledger
  have kept : ∃ kept ∈ service.pool.slots, kept.id = slot ∧ kept.slot.endpoint = endpoint := by
    rcases uses with ⟨task, mem, rfl, used⟩ | ⟨leased, mem, rfl, rfl⟩
    · exact ledger.task_slot task mem slot used
    · exact ledger.connection_slot leased mem
  obtain ⟨kept, mem, same_id, rfl⟩ := kept
  exact ⟨kept, Identity.find_of_mem ledger.endpoints_distinct mem, same_id⟩

theorem uses_of_dialing {task : ServeTask} (mem : task ∈ service.dialing endpoint) :
    ∃ slot, service.Uses endpoint slot ∧ task.stage = .dialing slot := by
  obtain ⟨task_mem, here⟩ := List.mem_filter.mp mem
  obtain ⟨same_endpoint, at_stage⟩ := Bool.and_eq_true_iff.mp here
  cases stage : task.stage with
  | spawned => simp [stage] at at_stage
  | queued slot => simp [stage] at at_stage
  | dialing slot =>
      exact ⟨slot, Or.inl ⟨task, task_mem, eq_of_beq same_endpoint, by rw [stage]; rfl⟩, rfl⟩

theorem uses_of_queued {task : ServeTask} (mem : task ∈ service.queued endpoint) :
    ∃ slot, service.Uses endpoint slot ∧ task.stage = .queued slot := by
  obtain ⟨task_mem, here⟩ := List.mem_filter.mp mem
  obtain ⟨same_endpoint, at_stage⟩ := Bool.and_eq_true_iff.mp here
  cases stage : task.stage with
  | spawned => simp [stage] at at_stage
  | dialing slot => simp [stage] at at_stage
  | queued slot =>
      exact ⟨slot, Or.inl ⟨task, task_mem, eq_of_beq same_endpoint, by rw [stage]; rfl⟩, rfl⟩

theorem uses_of_lease {leased : LeasedConnection} (mem : leased ∈ service.leases endpoint) :
    service.Uses endpoint leased.slot := by
  obtain ⟨leased_mem, same_endpoint⟩ := List.mem_filter.mp mem
  exact Or.inr ⟨leased, leased_mem, eq_of_beq same_endpoint, rfl⟩

/-- If an endpoint has no slot, nobody uses one for it. -/
theorem Valid.unused_of_no_slot (valid : service.Valid)
    (absent : service.pool.slotOf? endpoint = none) (slot : Nat) :
    ¬service.Uses endpoint slot := by
  intro uses
  obtain ⟨kept, found, _⟩ := valid.slotOf_of_uses uses
  rw [absent] at found
  cases found

/-- All who use a slot for an endpoint are served by the slot kept for it. -/
theorem Valid.users_of_slot (valid : service.Valid) {kept : KeptSlot}
    (found : service.pool.slotOf? endpoint = some kept) :
    (service.dialing endpoint).length ≤
        (idsAt service.pool.tasks (.dialing kept.id)).length ∧
      (service.queued endpoint).length ≤ (idsAt service.pool.tasks (.queued kept.id)).length ∧
      (service.leases endpoint).length ≤ (idsOf service.connections kept.id).length := by
  have only : ∀ slot, service.Uses endpoint slot → slot = kept.id := by
    intro slot uses
    obtain ⟨other, other_found, rfl⟩ := valid.slotOf_of_uses uses
    rw [Option.some.inj (other_found.symm.trans found)]
  refine ⟨?_, ?_, ?_⟩
  · rw [dialing, idsAt, List.length_map, ← List.countP_eq_length_filter,
      ← List.countP_eq_length_filter]
    refine List.countP_mono_left fun task mem here => ?_
    obtain ⟨slot, uses, stage⟩ := uses_of_dialing (List.mem_filter.mpr ⟨mem, here⟩)
    rw [stage, only slot uses, beq_self_eq_true]
  · rw [queued, idsAt, List.length_map, ← List.countP_eq_length_filter,
      ← List.countP_eq_length_filter]
    refine List.countP_mono_left fun task mem here => ?_
    obtain ⟨slot, uses, stage⟩ := uses_of_queued (List.mem_filter.mpr ⟨mem, here⟩)
    rw [stage, only slot uses, beq_self_eq_true]
  · rw [leases, idsOf, List.length_map, ← List.countP_eq_length_filter,
      ← List.countP_eq_length_filter]
    refine List.countP_mono_left fun leased mem here => ?_
    rw [only leased.slot (uses_of_lease (List.mem_filter.mpr ⟨mem, here⟩)), beq_self_eq_true]

/-- Permits and leases of an endpoint are within the limits of the pool, and so is its queue. -/
theorem Valid.within_limits (valid : service.Valid) (endpoint : Endpoint) :
    (service.dialing endpoint).length + (service.leases endpoint).length ≤
        service.pool.limits.maxPoolSize.toNat ∧
      (service.queued endpoint).length ≤ service.pool.limits.maxWaitQueueSize.toNat := by
  cases found : service.pool.slotOf? endpoint with
  | some kept =>
      have backs := valid.sound.ledger.accounted kept (TcpPool.mem_of_slotOf found).1
      obtain ⟨dialing_le, queued_le, leases_le⟩ := valid.users_of_slot found
      obtain ⟨permits_le, waiters_le⟩ := backs.serves.limits
      rw [backs.maxConnections_eq] at permits_le
      rw [backs.maxWaiters_eq] at waiters_le
      exact ⟨Nat.le_trans (Nat.add_le_add dialing_le leases_le) permits_le,
        Nat.le_trans queued_le waiters_le⟩
  | none =>
      have unused := valid.unused_of_no_slot found
      have no_dialing : service.dialing endpoint = [] :=
        List.eq_nil_iff_forall_not_mem.mpr fun task mem => by
          obtain ⟨slot, uses, _⟩ := uses_of_dialing mem
          exact unused slot uses
      have no_queued : service.queued endpoint = [] :=
        List.eq_nil_iff_forall_not_mem.mpr fun task mem => by
          obtain ⟨slot, uses, _⟩ := uses_of_queued mem
          exact unused slot uses
      have no_leases : service.leases endpoint = [] :=
        List.eq_nil_iff_forall_not_mem.mpr fun leased mem => unused _ (uses_of_lease mem)
      rw [no_dialing, no_queued, no_leases]
      exact ⟨Nat.zero_le _, Nat.zero_le _⟩

/-- The pool counts a connection as active exactly as long as its lease lasts. -/
theorem Valid.active_connections (valid : service.Valid) :
    service.pool.metrics.activeConnections = service.connections.length := by
  have ledger := valid.sound.ledger
  have counted : ∀ kept ∈ service.pool.slots,
      kept.slot.active = (service.connections.filter (·.slot == kept.id)).length := by
    intro kept mem
    have serves := (ledger.accounted kept mem).serves
    rw [serves.active_eq, serves.live_perm.length_eq, idsOf, List.length_map]
  rw [TcpPool.metrics_active, List.map_congr_left counted]
  refine Identity.sum_users ledger.slots_distinct fun leased mem => ?_
  obtain ⟨kept, kept_mem, same_slot, _⟩ := ledger.connection_slot leased mem
  exact ⟨kept, kept_mem, same_slot⟩

/-- Whatever has happened to a pool, the tasks that have a permit of an endpoint and the leases of
its connections are within its limit, and so are the tasks that wait for a permit.  A slot that a
task or a lease uses is the one that the pool keeps for the endpoint, so two slots of one endpoint
are never in use, and the active connections are those whose leases last. -/
theorem run_within_limits (limits : PoolLimits) (tls : TlsOptions)
    (connector : Option Connector) (actions : List Action) (endpoint : Endpoint) :
    let service := (start limits tls connector).run actions
    (service.dialing endpoint).length + (service.leases endpoint).length ≤
        limits.maxPoolSize.toNat ∧
      (service.queued endpoint).length ≤ limits.maxWaitQueueSize.toNat ∧
      (∀ slot, service.Uses endpoint slot →
        ∃ kept, service.pool.slotOf? endpoint = some kept ∧ kept.id = slot) ∧
      (∀ slot other, service.Uses endpoint slot → service.Uses endpoint other → slot = other) ∧
      service.pool.metrics.activeConnections = service.connections.length := by
  intro service
  have valid : service.Valid := (start_valid limits tls connector).run actions
  have same_limits : service.pool.limits = limits :=
    (start_valid limits tls connector).run_limits actions
  obtain ⟨permits_le, waiters_le⟩ := valid.within_limits endpoint
  rw [same_limits] at permits_le waiters_le
  refine ⟨permits_le, waiters_le, fun _ => valid.slotOf_of_uses, ?_, valid.active_connections⟩
  intro slot other uses also_uses
  obtain ⟨kept, found, rfl⟩ := valid.slotOf_of_uses uses
  obtain ⟨kept', found', rfl⟩ := valid.slotOf_of_uses also_uses
  rw [Option.some.inj (found.symm.trans found')]

end Service

end Courier
