import Courier.Pool.Service
import Courier.Proofs.Pool.Slot

/-!
# The ledger of a pool

A ledger relates the slots that a pool keeps to the tasks and connections that use them: every
slot serves exactly its tasks and connections, its references are the pool's own and theirs, and
whatever a task or a connection refers to is kept for its endpoint.  A ledger does not depend on
the order of its lists, so what happens to one slot and one task is a change of two heads.
-/

namespace Courier

/-- Requests whose tasks are at a stage. -/
def ServeTask.idsAt (tasks : List ServeTask) (stage : ServeStage) : List Nat :=
  (tasks.filter (·.stage == stage)).map (·.id)

/-- Connections with a lease from a slot. -/
def LeasedConnection.idsOf (connections : List LeasedConnection) (slot : Nat) : List Nat :=
  (connections.filter (·.slot == slot)).map (·.id)

open ServeTask (idsAt)
open LeasedConnection (idsOf)

theorem ServeTask.idsAt_cons_self {task : ServeTask} {tasks : List ServeTask}
    {stage : ServeStage} (here : task.stage = stage) :
    idsAt (task :: tasks) stage = task.id :: idsAt tasks stage := by
  rw [idsAt, List.filter_cons_of_pos (by simpa using here), List.map_cons]
  rfl

theorem ServeTask.idsAt_cons_of_ne {task : ServeTask} {tasks : List ServeTask}
    {stage : ServeStage} (elsewhere : task.stage ≠ stage) :
    idsAt (task :: tasks) stage = idsAt tasks stage := by
  rw [idsAt, List.filter_cons_of_neg (by simpa using elsewhere)]
  rfl

theorem LeasedConnection.idsOf_cons_self {leased : LeasedConnection}
    {connections : List LeasedConnection} {slot : Nat} (here : leased.slot = slot) :
    idsOf (leased :: connections) slot = leased.id :: idsOf connections slot := by
  rw [idsOf, List.filter_cons_of_pos (by simpa using here), List.map_cons]
  rfl

theorem LeasedConnection.idsOf_cons_of_ne {leased : LeasedConnection}
    {connections : List LeasedConnection} {slot : Nat} (elsewhere : leased.slot ≠ slot) :
    idsOf (leased :: connections) slot = idsOf connections slot := by
  rw [idsOf, List.filter_cons_of_neg (by simpa using elsewhere)]
  rfl

theorem ServeTask.mem_idsAt {tasks : List ServeTask} {task : ServeTask} {stage : ServeStage}
    (mem : task ∈ tasks) (here : task.stage = stage) : task.id ∈ idsAt tasks stage :=
  List.mem_map.mpr ⟨task, List.mem_filter.mpr ⟨mem, by simpa using here⟩, rfl⟩

theorem ServeTask.idsAt_nodup {tasks : List ServeTask} (distinct : (tasks.map (·.id)).Nodup)
    (stage : ServeStage) : (idsAt tasks stage).Nodup :=
  distinct.sublist (List.filter_sublist.map _)

theorem LeasedConnection.mem_idsOf {connections : List LeasedConnection}
    {leased : LeasedConnection} (mem : leased ∈ connections) :
    leased.id ∈ idsOf connections leased.slot :=
  List.mem_map.mpr ⟨leased, List.mem_filter.mpr ⟨mem, by simp⟩, rfl⟩

/-- A slot serves three lists under the limits of its pool, and counts a reference for each of
their members and one for the pool. -/
structure KeptSlot.Backs (kept : KeptSlot) (limits : PoolLimits)
    (queued holding leased : List Nat) : Prop where
  serves : kept.slot.Serves queued holding leased
  references_eq : kept.references = 1 + queued.length + holding.length + leased.length
  maxConnections_eq : kept.slot.maxConnections = limits.maxPoolSize.toNat
  maxWaiters_eq : kept.slot.maxWaiters = limits.maxWaitQueueSize.toNat

/-- A slot backs the tasks and the connections that use it. -/
def KeptSlot.Accounted (kept : KeptSlot) (limits : PoolLimits) (tasks : List ServeTask)
    (connections : List LeasedConnection) : Prop :=
  kept.Backs limits (idsAt tasks (.queued kept.id)) (idsAt tasks (.dialing kept.id))
    (idsOf connections kept.id)

/-- The slots of a pool are accounted for by its tasks and connections. -/
structure Ledger (limits : PoolLimits) (slots : List KeptSlot) (tasks : List ServeTask)
    (connections : List LeasedConnection) : Prop where
  slots_distinct : (slots.map (·.id)).Nodup
  /-- There is one slot for an endpoint at most. -/
  endpoints_distinct : (slots.map (·.slot.endpoint)).Nodup
  tasks_distinct : (tasks.map (·.id)).Nodup
  connections_distinct : (connections.map (·.id)).Nodup
  accounted : ∀ kept ∈ slots, kept.Accounted limits tasks connections
  /-- The slot that a task uses is kept for its endpoint. -/
  task_slot : ∀ task ∈ tasks, ∀ slot, task.stage.slot? = some slot →
    ∃ kept ∈ slots, kept.id = slot ∧ kept.slot.endpoint = task.endpoint
  /-- The slot that a lease refers to is kept for the endpoint of its connection. -/
  connection_slot : ∀ leased ∈ connections,
    ∃ kept ∈ slots, kept.id = leased.slot ∧ kept.slot.endpoint = leased.endpoint

namespace Ledger

variable {limits : PoolLimits} {slots others slots' : List KeptSlot} {kept kept' : KeptSlot}
  {task task' : ServeTask} {tasks rest tasks' : List ServeTask}
  {leased : LeasedConnection} {connections connections' : List LeasedConnection}

theorem empty (limits : PoolLimits) : Ledger limits [] [] [] :=
  ⟨.nil, .nil, .nil, .nil, fun _ mem => (List.not_mem_nil mem).elim,
    fun _ mem => (List.not_mem_nil mem).elim, fun _ mem => (List.not_mem_nil mem).elim⟩

/-- The order of slots, tasks and connections is immaterial. -/
theorem perm (ledger : Ledger limits slots tasks connections) (slots_perm : slots.Perm slots')
    (tasks_perm : tasks.Perm tasks') (connections_perm : connections.Perm connections') :
    Ledger limits slots' tasks' connections' where
  slots_distinct := (slots_perm.map _).nodup_iff.mp ledger.slots_distinct
  endpoints_distinct := (slots_perm.map _).nodup_iff.mp ledger.endpoints_distinct
  tasks_distinct := (tasks_perm.map _).nodup_iff.mp ledger.tasks_distinct
  connections_distinct := (connections_perm.map _).nodup_iff.mp ledger.connections_distinct
  accounted := by
    intro kept mem
    obtain ⟨serves, references_eq, maxConnections_eq, maxWaiters_eq⟩ :=
      ledger.accounted kept (slots_perm.mem_iff.mpr mem)
    have queued : (idsAt tasks (.queued kept.id)).Perm (idsAt tasks' (.queued kept.id)) :=
      (tasks_perm.filter _).map _
    have dialing : (idsAt tasks (.dialing kept.id)).Perm (idsAt tasks' (.dialing kept.id)) :=
      (tasks_perm.filter _).map _
    have leases : (idsOf connections kept.id).Perm (idsOf connections' kept.id) :=
      (connections_perm.filter _).map _
    refine ⟨serves.perm queued dialing leases, ?_, maxConnections_eq, maxWaiters_eq⟩
    rw [references_eq, queued.length_eq, dialing.length_eq, leases.length_eq]
  task_slot := by
    intro task mem slot uses
    obtain ⟨kept, kept_mem, facts⟩ :=
      ledger.task_slot task (tasks_perm.mem_iff.mpr mem) slot uses
    exact ⟨kept, slots_perm.mem_iff.mp kept_mem, facts⟩
  connection_slot := by
    intro leased mem
    obtain ⟨kept, kept_mem, facts⟩ :=
      ledger.connection_slot leased (connections_perm.mem_iff.mpr mem)
    exact ⟨kept, slots_perm.mem_iff.mp kept_mem, facts⟩

/-! ## What uses a slot -/

theorem apart (ledger : Ledger limits (kept :: others) tasks connections) :
    ∀ other ∈ others, other.id ≠ kept.id := by
  intro other mem same
  have distinct := ledger.slots_distinct
  rw [List.map_cons, List.nodup_cons] at distinct
  exact distinct.1 (List.mem_map.mpr ⟨other, mem, same⟩)

theorem tasks_apart (ledger : Ledger limits slots (task :: rest) connections) :
    ∀ other ∈ rest, other.id ≠ task.id := by
  intro other mem same
  have distinct := ledger.tasks_distinct
  rw [List.map_cons, List.nodup_cons] at distinct
  exact distinct.1 (List.mem_map.mpr ⟨other, mem, same⟩)

/-- The slot that a task uses is known by its identity. -/
theorem endpoint_of_task (ledger : Ledger limits slots tasks connections)
    (kept_mem : kept ∈ slots) (task_mem : task ∈ tasks)
    (uses : task.stage.slot? = some kept.id) : kept.slot.endpoint = task.endpoint := by
  obtain ⟨found, found_mem, same_id, endpoint_eq⟩ := ledger.task_slot task task_mem _ uses
  rw [Identity.eq_of_identity ledger.slots_distinct kept_mem found_mem same_id.symm, endpoint_eq]

/-- Nobody refers to a slot that is not kept. -/
theorem unused (ledger : Ledger limits slots tasks connections) {id : Nat}
    (absent : ∀ kept ∈ slots, kept.id ≠ id) :
    idsAt tasks (.queued id) = [] ∧ idsAt tasks (.dialing id) = [] ∧
      idsOf connections id = [] := by
  have no_task : ∀ task ∈ tasks, task.stage.slot? ≠ some id := by
    intro task mem uses
    obtain ⟨kept, kept_mem, same_id, _⟩ := ledger.task_slot task mem id uses
    exact absent kept kept_mem same_id
  have no_lease : ∀ leased ∈ connections, leased.slot ≠ id := by
    intro leased mem uses
    obtain ⟨kept, kept_mem, same_id, _⟩ := ledger.connection_slot leased mem
    exact absent kept kept_mem (same_id.trans uses)
  refine ⟨?_, ?_, ?_⟩
  · rw [idsAt, List.filter_eq_nil_iff.mpr, List.map_nil]
    intro task mem here
    exact no_task task mem (by rw [eq_of_beq here]; rfl)
  · rw [idsAt, List.filter_eq_nil_iff.mpr, List.map_nil]
    intro task mem here
    exact no_task task mem (by rw [eq_of_beq here]; rfl)
  · rw [idsOf, List.filter_eq_nil_iff.mpr, List.map_nil]
    intro leased mem here
    exact no_lease leased mem (eq_of_beq here)

/-- A slot that a task uses has a reference besides that of the pool. -/
theorem references_of_task (ledger : Ledger limits slots tasks connections)
    (kept_mem : kept ∈ slots) (task_mem : task ∈ tasks)
    (uses : task.stage.slot? = some kept.id) : kept.references ≠ 1 := by
  have references_eq := (ledger.accounted kept kept_mem).references_eq
  have one_user : 0 < (idsAt tasks (.queued kept.id)).length +
      (idsAt tasks (.dialing kept.id)).length := by
    cases stage : task.stage with
    | spawned => rw [stage] at uses; cases uses
    | queued slot =>
        rw [stage] at uses
        obtain rfl := Option.some.inj uses
        exact Nat.add_pos_left (List.length_pos_of_mem (ServeTask.mem_idsAt task_mem stage)) _
    | dialing slot =>
        rw [stage] at uses
        obtain rfl := Option.some.inj uses
        exact Nat.add_pos_right _ (List.length_pos_of_mem (ServeTask.mem_idsAt task_mem stage))
  omega

/-- So has one to which a lease refers. -/
theorem references_of_connection (ledger : Ledger limits slots tasks connections)
    (kept_mem : kept ∈ slots) (leased_mem : leased ∈ connections)
    (uses : kept.id = leased.slot) : kept.references ≠ 1 := by
  have references_eq := (ledger.accounted kept kept_mem).references_eq
  have one_user : 0 < (idsOf connections kept.id).length := by
    rw [uses]
    exact List.length_pos_of_mem (LeasedConnection.mem_idsOf leased_mem)
  omega

/-! ## Changes of one slot and its users -/

/-- Nobody starts or stops using a slot through a task that uses another one. -/
theorem idsAt_of_task_elsewhere {id slot : Nat} {stage : ServeStage}
    (here : ∀ used, task.stage.slot? = some used → used = id)
    (uses : stage.slot? = some slot) (different : slot ≠ id) :
    idsAt (task :: rest) stage = idsAt rest stage := by
  apply ServeTask.idsAt_cons_of_ne
  rintro rfl
  exact different (here slot uses)

/-- A slot that is changed can still be found by its identity and for its endpoint. -/
theorem found_after_exchange {id : Nat} {endpoint : Endpoint} (same_id : kept'.id = kept.id)
    (same_endpoint : kept'.slot.endpoint = kept.slot.endpoint)
    (before : ∃ found ∈ kept :: others, found.id = id ∧ found.slot.endpoint = endpoint) :
    ∃ found ∈ kept' :: others, found.id = id ∧ found.slot.endpoint = endpoint := by
  obtain ⟨found, found_mem, found_id, found_endpoint⟩ := before
  rcases List.mem_cons.mp found_mem with rfl | in_others
  · exact ⟨kept', List.mem_cons_self, same_id.trans found_id, same_endpoint.trans found_endpoint⟩
  · exact ⟨found, List.mem_cons_of_mem _ in_others, found_id, found_endpoint⟩

/-- One slot and those who use it change; nobody starts or stops using another slot. -/
theorem exchange (ledger : Ledger limits (kept :: others) tasks connections)
    (same_id : kept'.id = kept.id)
    (same_endpoint : kept'.slot.endpoint = kept.slot.endpoint)
    (accounted' : kept'.Accounted limits tasks' connections')
    (tasks_distinct' : (tasks'.map (·.id)).Nodup)
    (connections_distinct' : (connections'.map (·.id)).Nodup)
    (other_tasks : ∀ stage slot, stage.slot? = some slot → slot ≠ kept.id →
      idsAt tasks' stage = idsAt tasks stage)
    (other_connections : ∀ slot, slot ≠ kept.id →
      idsOf connections' slot = idsOf connections slot)
    (task_users : ∀ task ∈ tasks',
      task ∈ tasks ∨ ∀ slot, task.stage.slot? = some slot →
        slot = kept.id ∧ kept.slot.endpoint = task.endpoint)
    (connection_users : ∀ leased ∈ connections',
      leased ∈ connections ∨
        leased.slot = kept.id ∧ kept.slot.endpoint = leased.endpoint) :
    Ledger limits (kept' :: others) tasks' connections' where
  slots_distinct := by
    have distinct := ledger.slots_distinct
    rw [List.map_cons] at distinct ⊢
    rw [same_id]
    exact distinct
  endpoints_distinct := by
    have distinct := ledger.endpoints_distinct
    rw [List.map_cons] at distinct ⊢
    rw [same_endpoint]
    exact distinct
  tasks_distinct := tasks_distinct'
  connections_distinct := connections_distinct'
  accounted := by
    intro other mem
    rcases List.mem_cons.mp mem with rfl | in_others
    · exact accounted'
    · have different := ledger.apart other in_others
      have backs := ledger.accounted other (List.mem_cons_of_mem _ in_others)
      rw [KeptSlot.Accounted] at backs ⊢
      rw [other_tasks _ _ rfl different, other_tasks _ _ rfl different,
        other_connections _ different]
      exact backs
  task_slot := by
    intro task mem slot uses
    refine found_after_exchange same_id same_endpoint ?_
    rcases task_users task mem with old | new
    · exact ledger.task_slot task old slot uses
    · obtain ⟨rfl, endpoint_eq⟩ := new slot uses
      exact ⟨kept, List.mem_cons_self, rfl, endpoint_eq⟩
  connection_slot := by
    intro leased mem
    refine found_after_exchange same_id same_endpoint ?_
    rcases connection_users leased mem with old | ⟨slot_eq, endpoint_eq⟩
    · exact ledger.connection_slot leased old
    · exact ⟨kept, List.mem_cons_self, slot_eq.symm, endpoint_eq⟩

/-- A task leaves its slot and ends. -/
theorem depart (ledger : Ledger limits (kept :: others) (task :: rest) connections)
    (here : ∀ slot, task.stage.slot? = some slot → slot = kept.id)
    (same_id : kept'.id = kept.id)
    (same_endpoint : kept'.slot.endpoint = kept.slot.endpoint)
    (accounted' : kept'.Accounted limits rest connections) :
    Ledger limits (kept' :: others) rest connections :=
  ledger.exchange same_id same_endpoint accounted' (List.nodup_cons.mp ledger.tasks_distinct).2
    ledger.connections_distinct
    (fun _ _ uses different => (idsAt_of_task_elsewhere here uses different).symm)
    (fun _ _ => rfl) (fun _ mem => Or.inl (List.mem_cons_of_mem _ mem)) (fun _ mem => Or.inl mem)

/-- A task comes to another stage at its slot. -/
theorem progress (ledger : Ledger limits (kept :: others) (task :: rest) connections)
    (here : ∀ slot, task.stage.slot? = some slot → slot = kept.id)
    (endpoint_eq : kept.slot.endpoint = task.endpoint)
    {stage : ServeStage} (uses : stage.slot? = some kept.id)
    (same_id : kept'.id = kept.id)
    (same_endpoint : kept'.slot.endpoint = kept.slot.endpoint)
    (accounted' : kept'.Accounted limits ({ task with stage } :: rest) connections) :
    Ledger limits (kept' :: others) ({ task with stage } :: rest) connections := by
  have still_here : ∀ slot, stage.slot? = some slot → slot = kept.id := by
    intro slot slot_eq
    exact Option.some.inj (slot_eq.symm.trans uses)
  refine ledger.exchange same_id same_endpoint accounted' ledger.tasks_distinct
    ledger.connections_distinct ?_ (fun _ _ => rfl) ?_ (fun _ mem => Or.inl mem)
  · intro other slot other_uses different
    rw [idsAt_of_task_elsewhere still_here other_uses different,
      idsAt_of_task_elsewhere here other_uses different]
  · intro other mem
    rcases List.mem_cons.mp mem with rfl | in_rest
    · exact Or.inr fun slot slot_eq => ⟨still_here slot slot_eq, endpoint_eq⟩
    · exact Or.inl (List.mem_cons_of_mem _ in_rest)

/-- A task ends with a lease of its slot for a new connection. -/
theorem lease (ledger : Ledger limits (kept :: others) (task :: rest) connections)
    (here : ∀ slot, task.stage.slot? = some slot → slot = kept.id)
    (slot_eq : leased.slot = kept.id) (endpoint_eq : kept.slot.endpoint = leased.endpoint)
    (fresh : ∀ other ∈ connections, other.id ≠ leased.id)
    (same_id : kept'.id = kept.id)
    (same_endpoint : kept'.slot.endpoint = kept.slot.endpoint)
    (accounted' : kept'.Accounted limits rest (leased :: connections)) :
    Ledger limits (kept' :: others) rest (leased :: connections) := by
  refine ledger.exchange same_id same_endpoint accounted'
    (List.nodup_cons.mp ledger.tasks_distinct).2 ?_
    (fun _ _ uses different => (idsAt_of_task_elsewhere here uses different).symm) ?_
    (fun _ mem => Or.inl (List.mem_cons_of_mem _ mem)) ?_
  · rw [List.map_cons, List.nodup_cons]
    refine ⟨?_, ledger.connections_distinct⟩
    intro used
    obtain ⟨other, mem, same⟩ := List.mem_map.mp used
    exact fresh other mem same
  · intro slot different
    exact LeasedConnection.idsOf_cons_of_ne (fun same => different (same.symm.trans slot_eq))
  · intro other mem
    rcases List.mem_cons.mp mem with rfl | old
    · exact Or.inr ⟨slot_eq, endpoint_eq⟩
    · exact Or.inl old

/-- A connection is dropped and its lease ends. -/
theorem endLease (ledger : Ledger limits (kept :: others) tasks (leased :: connections))
    (slot_eq : leased.slot = kept.id)
    (same_id : kept'.id = kept.id)
    (same_endpoint : kept'.slot.endpoint = kept.slot.endpoint)
    (accounted' : kept'.Accounted limits tasks connections) :
    Ledger limits (kept' :: others) tasks connections :=
  ledger.exchange same_id same_endpoint accounted' ledger.tasks_distinct
    (List.nodup_cons.mp ledger.connections_distinct).2 (fun _ _ _ _ => rfl)
    (fun _ different => (LeasedConnection.idsOf_cons_of_ne
      (fun same => different (same.symm.trans slot_eq))).symm)
    (fun _ mem => Or.inl mem) (fun _ mem => Or.inl (List.mem_cons_of_mem _ mem))

/-! ## Changes that no slot in use notices -/

theorem idsAt_of_spawned (spawned : task.stage = .spawned) {stage : ServeStage} {slot : Nat}
    (uses : stage.slot? = some slot) : idsAt (task :: rest) stage = idsAt rest stage := by
  apply ServeTask.idsAt_cons_of_ne
  rintro rfl
  rw [spawned] at uses
  cases uses

/-- A task that has not started ends. -/
theorem dismiss (ledger : Ledger limits slots (task :: rest) connections)
    (spawned : task.stage = .spawned) : Ledger limits slots rest connections where
  slots_distinct := ledger.slots_distinct
  endpoints_distinct := ledger.endpoints_distinct
  tasks_distinct := (List.nodup_cons.mp ledger.tasks_distinct).2
  connections_distinct := ledger.connections_distinct
  accounted := by
    intro kept mem
    have backs := ledger.accounted kept mem
    rw [KeptSlot.Accounted, idsAt_of_spawned spawned rfl, idsAt_of_spawned spawned rfl] at backs
    exact backs
  task_slot := fun other mem => ledger.task_slot other (List.mem_cons_of_mem _ mem)
  connection_slot := ledger.connection_slot

/-- A new task has not started. -/
theorem spawn (ledger : Ledger limits slots tasks connections)
    (spawned : task.stage = .spawned) (fresh : ∀ other ∈ tasks, other.id ≠ task.id) :
    Ledger limits slots (task :: tasks) connections where
  slots_distinct := ledger.slots_distinct
  endpoints_distinct := ledger.endpoints_distinct
  tasks_distinct := by
    rw [List.map_cons, List.nodup_cons]
    refine ⟨?_, ledger.tasks_distinct⟩
    intro used
    obtain ⟨other, mem, same⟩ := List.mem_map.mp used
    exact fresh other mem same
  connections_distinct := ledger.connections_distinct
  accounted := by
    intro kept mem
    rw [KeptSlot.Accounted, idsAt_of_spawned spawned rfl, idsAt_of_spawned spawned rfl]
    exact ledger.accounted kept mem
  task_slot := by
    intro other mem slot uses
    rcases List.mem_cons.mp mem with rfl | old
    · rw [spawned] at uses
      cases uses
    · exact ledger.task_slot other old slot uses
  connection_slot := ledger.connection_slot

/-- Slots to which only the pool refers are used by nobody and can be forgotten. -/
theorem evict (ledger : Ledger limits slots tasks connections) :
    Ledger limits (slots.filter (·.references != 1)) tasks connections where
  slots_distinct := ledger.slots_distinct.sublist (List.filter_sublist.map _)
  endpoints_distinct := ledger.endpoints_distinct.sublist (List.filter_sublist.map _)
  tasks_distinct := ledger.tasks_distinct
  connections_distinct := ledger.connections_distinct
  accounted := fun kept mem => ledger.accounted kept (List.mem_of_mem_filter mem)
  task_slot := by
    intro task mem slot uses
    obtain ⟨kept, kept_mem, rfl, endpoint_eq⟩ := ledger.task_slot task mem slot uses
    have used := ledger.references_of_task kept_mem mem uses
    exact ⟨kept, List.mem_filter.mpr ⟨kept_mem, by simpa using used⟩, rfl, endpoint_eq⟩
  connection_slot := by
    intro leased mem
    obtain ⟨kept, kept_mem, same_id, endpoint_eq⟩ := ledger.connection_slot leased mem
    have used := ledger.references_of_connection kept_mem mem same_id
    exact ⟨kept, List.mem_filter.mpr ⟨kept_mem, by simpa using used⟩, same_id, endpoint_eq⟩

/-- A new slot is used by nobody. -/
theorem admit_slot (ledger : Ledger limits slots tasks connections)
    (fresh : ∀ other ∈ slots, other.id ≠ kept.id)
    (new_endpoint : ∀ other ∈ slots, other.slot.endpoint ≠ kept.slot.endpoint)
    (idle : kept.Backs limits [] [] []) : Ledger limits (kept :: slots) tasks connections where
  slots_distinct := by
    rw [List.map_cons, List.nodup_cons]
    refine ⟨?_, ledger.slots_distinct⟩
    intro used
    obtain ⟨other, mem, same⟩ := List.mem_map.mp used
    exact fresh other mem same
  endpoints_distinct := by
    rw [List.map_cons, List.nodup_cons]
    refine ⟨?_, ledger.endpoints_distinct⟩
    intro used
    obtain ⟨other, mem, same⟩ := List.mem_map.mp used
    exact new_endpoint other mem same
  tasks_distinct := ledger.tasks_distinct
  connections_distinct := ledger.connections_distinct
  accounted := by
    intro other mem
    rcases List.mem_cons.mp mem with rfl | old
    · obtain ⟨no_queued, no_dialing, no_lease⟩ := ledger.unused fresh
      rw [KeptSlot.Accounted, no_queued, no_dialing, no_lease]
      exact idle
    · exact ledger.accounted other old
  task_slot := by
    intro task mem slot uses
    obtain ⟨found, found_mem, facts⟩ := ledger.task_slot task mem slot uses
    exact ⟨found, List.mem_cons_of_mem _ found_mem, facts⟩
  connection_slot := by
    intro leased mem
    obtain ⟨found, found_mem, facts⟩ := ledger.connection_slot leased mem
    exact ⟨found, List.mem_cons_of_mem _ found_mem, facts⟩

/-- Closing every slot changes nothing about who uses it. -/
theorem close (ledger : Ledger limits slots tasks connections) :
    Ledger limits (slots.map fun kept => { kept with slot := kept.slot.close.1 }) tasks
      connections where
  slots_distinct := by
    rw [List.map_map]
    exact ledger.slots_distinct
  endpoints_distinct := by
    rw [List.map_map]
    exact ledger.endpoints_distinct
  tasks_distinct := ledger.tasks_distinct
  connections_distinct := ledger.connections_distinct
  accounted := by
    intro closed mem
    obtain ⟨kept, kept_mem, rfl⟩ := List.mem_map.mp mem
    obtain ⟨serves, references_eq, maxConnections_eq, maxWaiters_eq⟩ :=
      ledger.accounted kept kept_mem
    exact ⟨serves.close, references_eq, maxConnections_eq, maxWaiters_eq⟩
  task_slot := by
    intro task mem slot uses
    obtain ⟨kept, kept_mem, facts⟩ := ledger.task_slot task mem slot uses
    exact ⟨_, List.mem_map.mpr ⟨kept, kept_mem, rfl⟩, facts⟩
  connection_slot := by
    intro leased mem
    obtain ⟨kept, kept_mem, facts⟩ := ledger.connection_slot leased mem
    exact ⟨_, List.mem_map.mpr ⟨kept, kept_mem, rfl⟩, facts⟩

/-- The connections of a ledger may change in whatever it does not look at. -/
theorem map_connections (ledger : Ledger limits slots tasks connections)
    {change : LeasedConnection → LeasedConnection}
    (same_id : ∀ leased, (change leased).id = leased.id)
    (same_endpoint : ∀ leased, (change leased).endpoint = leased.endpoint)
    (same_slot : ∀ leased, (change leased).slot = leased.slot) :
    Ledger limits slots tasks (connections.map change) where
  slots_distinct := ledger.slots_distinct
  endpoints_distinct := ledger.endpoints_distinct
  tasks_distinct := ledger.tasks_distinct
  connections_distinct := by
    have same_ids : (connections.map change).map (·.id) = connections.map (·.id) := by
      rw [List.map_map]
      exact List.map_congr_left fun leased _ => same_id leased
    rw [same_ids]
    exact ledger.connections_distinct
  accounted := by
    intro kept mem
    have same_leases :
        idsOf (connections.map change) kept.id = idsOf connections kept.id := by
      simp only [idsOf, List.filter_map, List.map_map, Function.comp_def, same_id, same_slot]
    rw [KeptSlot.Accounted, same_leases]
    exact ledger.accounted kept mem
  task_slot := ledger.task_slot
  connection_slot := by
    intro changed mem
    obtain ⟨leased, leased_mem, rfl⟩ := List.mem_map.mp mem
    rw [same_slot, same_endpoint]
    exact ledger.connection_slot leased leased_mem

end Ledger

end Courier
