import Courier.Proofs.Pool.Roster
import Courier.Proofs.Pool.Turns

/-!
# What every action keeps in order

Requesters, the runtime, the network and contexts may act on a pool in any order.  Whatever they
do, the ledger of the pool is in order for the connections that exist, everybody who waits is
served by one task, nobody can get a connection that does not exist, and no connection of a closed
pool is valid.
-/

namespace Courier.Service

variable {service : Service} {requester : Requester} {change : Requester → Requester}
  {connection : Nat}

/-- Whoever asked for a connection, with the others. -/
abbrev others (service : Service) (id : Nat) : List Requester :=
  Identity.others (·.id) service.requesters id

/-- A pool in service is in order. -/
structure Valid (service : Service) : Prop where
  sound : service.pool.Sound service.connections
  roster : Roster service.requesters service.next (service.connections.map (·.id))
  attended : Attended service.requesters service.pool.tasks
  connections_below : ∀ leased ∈ service.connections, leased.id < service.next
  /-- A shutdown leaves no valid connection, and none is made afterwards. -/
  closed_invalid : service.pool.closed = true →
    ∀ leased ∈ service.connections, leased.valid = false

theorem start_valid (limits : PoolLimits) (tls : TlsOptions) (connector : Option Connector) :
    (start limits tls connector).Valid where
  sound := ⟨.empty limits, fun _ mem => (List.not_mem_nil mem).elim⟩
  roster := .empty _ _
  attended := ⟨fun _ mem => (List.not_mem_nil mem).elim, fun _ mem => (List.not_mem_nil mem).elim⟩
  connections_below := fun _ mem => (List.not_mem_nil mem).elim
  closed_invalid := fun _ _ mem => (List.not_mem_nil mem).elim

/-! ## Changes of one requester -/

theorem mem_of_requester {id : Nat} (found : service.requester? id = some requester) :
    requester ∈ service.requesters ∧ requester.id = id :=
  Identity.mem_of_find found

theorem Valid.requesters_perm (valid : service.Valid) (mem : requester ∈ service.requesters) :
    service.requesters.Perm (requester :: service.others requester.id) :=
  Identity.perm_cons_others valid.roster.distinct mem

theorem Valid.updated_perm (valid : service.Valid) (mem : requester ∈ service.requesters)
    (change : Requester → Requester) :
    (service.updateRequester requester.id change).requesters.Perm
      (change requester :: service.others requester.id) :=
  Identity.map_perm_cons_others valid.roster.distinct mem change

/-- A requester changes without an answer of the pool, and can get no more than before. -/
theorem Valid.update (valid : service.Valid) (mem : requester ∈ service.requesters)
    (same_id : (change requester).id = requester.id)
    (same_endpoint : (change requester).endpoint = requester.endpoint)
    (held_iff : (change requester).handoff.sender = .held ↔ requester.handoff.sender = .held)
    (faithful : (change requester).Faithful)
    (no_more : ∀ connection, (change requester).handoff.connection? = some connection →
      requester.handoff.connection? = some connection) :
    (service.updateRequester requester.id change).Valid := by
  have roster := valid.roster.perm (valid.requesters_perm mem)
  have attended := valid.attended.perm (valid.requesters_perm mem) (.refl _)
  have updated_perm := valid.updated_perm mem change
  refine ⟨valid.sound, ?_, ?_, valid.connections_below, valid.closed_invalid⟩
  · refine (roster.exchange same_id faithful ?_).perm updated_perm.symm
    intro connection carried
    have carried_before := no_more connection carried
    exact ⟨roster.carried_exists requester List.mem_cons_self connection carried_before,
      roster.carried_by_one carried_before⟩
  · exact (attended.exchange same_id same_endpoint held_iff).perm updated_perm.symm (.refl _)

theorem Valid.dropConnection (valid : service.Valid)
    (uncarried : ∀ requester ∈ service.requesters,
      requester.handoff.connection? ≠ some connection) :
    (service.dropConnection connection).Valid := by
  rw [Service.dropConnection]
  split
  · exact valid
  · rename_i leased found
    obtain ⟨mem, rfl⟩ := Identity.mem_of_find found
    have connections_perm := Identity.perm_cons_others valid.sound.ledger.connections_distinct mem
    have sound : service.pool.Sound
        (leased :: Identity.others (·.id) service.connections leased.id) :=
      ⟨valid.sound.ledger.perm (.refl _) (.refl _) connections_perm, valid.sound.slots_below⟩
    refine ⟨sound.endLease, ?_, valid.attended, ?_, ?_⟩
    · refine valid.roster.drop uncarried ?_
      intro id id_mem different
      obtain ⟨other, other_mem, rfl⟩ := List.mem_map.mp id_mem
      exact List.mem_map.mpr ⟨other, List.mem_filter.mpr ⟨other_mem, by simpa using different⟩,
        rfl⟩
    · exact fun other other_mem => valid.connections_below other (List.mem_of_mem_filter other_mem)
    · exact fun closed other other_mem =>
        valid.closed_invalid closed other (List.mem_of_mem_filter other_mem)

/-- An answer that is lost was carried by one requester, so its connection can be dropped. -/
theorem Valid.changeHandoff (valid : service.Valid) (id : Nat)
    {change : Handoff Nat → Handoff Nat × Option (Answer Nat)}
    (passes : ∀ handoff : Handoff Nat, handoff.Proper → handoff.Passes (change handoff))
    (held_iff : ∀ requester ∈ service.requesters, requester.id = id →
      ((change requester.handoff).1.sender = .held ↔ requester.handoff.sender = .held)) :
    (service.changeHandoff id change).Valid := by
  rw [Service.changeHandoff]
  split
  · exact valid
  · rename_i requester found
    obtain ⟨mem, rfl⟩ := mem_of_requester found
    have faithful := valid.roster.faithful requester mem
    have still_held := held_iff requester mem rfl
    have passed := passes requester.handoff faithful.proper
    have carried := passed.carried
    have updated : (service.updateRequester requester.id fun requester =>
        { requester with handoff := (change requester.handoff).1 }).Valid :=
      valid.update mem rfl rfl still_held
        ⟨passed.proper, fun held => faithful.unanswered (still_held.mp held),
          fun connection carries => faithful.carried_answer connection (passed.no_more carries),
          faithful.outcome_answer⟩
        fun connection carries => passed.no_more carries
    rcases lost : (change requester.handoff).2 with _ | error | connection
    · exact updated
    · exact updated
    · rcases carried with ⟨nothing_lost, _⟩ | ⟨all_lost, nothing⟩
      · rw [nothing_lost] at lost
        cases lost
      · refine updated.dropConnection ?_
        have carried_before : requester.handoff.connection? = some connection := by
          rw [Handoff.connection?, ← all_lost, lost]
          rfl
        have elsewhere := (valid.roster.perm (valid.requesters_perm mem)).carried_by_one
          carried_before
        intro other other_mem
        rcases List.mem_cons.mp ((valid.updated_perm mem _).mem_iff.mp other_mem) with rfl | old
        · rw [Handoff.connection?, nothing]
          simp
        · exact elsewhere other old

/-! ## Every action -/

theorem Valid.cancel (valid : service.Valid) (id : Nat) :
    (service.changeHandoff id fun handoff => (handoff.cancel, none)).Valid :=
  valid.changeHandoff id (fun _ proper => proper.cancel) fun _ _ _ => Iff.rfl

theorem Valid.forsake (valid : service.Valid) (id : Nat) :
    (service.changeHandoff id (·.dropReceiver)).Valid :=
  valid.changeHandoff id (fun _ proper => proper.dropReceiver) fun _ _ _ => Iff.rfl

theorem Valid.deliver (valid : service.Valid) (id : Nat) :
    (service.changeHandoff id (·.publish)).Valid := by
  exact valid.changeHandoff id (fun _ proper => proper.publish) fun requester _ _ =>
    requester.handoff.publish_held_iff

theorem Valid.discard (valid : service.Valid) (id : Nat) : (service.discard id).Valid := by
  rw [Service.discard]
  split
  · exact valid
  · rename_i requester found
    split
    · rename_i answer in_flight _
      obtain ⟨mem, rfl⟩ := mem_of_requester found
      refine valid.changeHandoff _ (fun _ proper => proper.dropSender) ?_
      intro other other_mem same_id
      obtain rfl := Identity.eq_of_identity valid.roster.distinct other_mem mem same_id
      rw [Handoff.dropSender_sender, in_flight]
      exact ⟨nofun, nofun⟩
    · exact valid

theorem Valid.look (valid : service.Valid) (id : Nat) : (service.look id).Valid := by
  rw [Service.look]
  split
  · exact valid
  · rename_i requester found
    obtain ⟨mem, rfl⟩ := mem_of_requester found
    split
    · exact valid
    · split
      · exact valid
      · rename_i handoff answer taken
        have taken_handoff : handoff = requester.handoff.take.1 := (congrArg Prod.fst taken).symm
        rw [taken_handoff]
        have faithful := valid.roster.faithful requester mem
        refine valid.update mem rfl rfl (by rw [Handoff.take_sender])
          ⟨faithful.proper.take, ?_, ?_, ?_⟩ fun connection => Handoff.carried_of_take
        · rw [Handoff.take_sender]
          exact faithful.unanswered
        · exact fun connection carries =>
            faithful.carried_answer connection (Handoff.carried_of_take carries)
        · intro connection outcome_eq
          obtain rfl := Option.some.inj outcome_eq
          exact faithful.carried_answer connection
            (faithful.proper.carried_of_poll (congrArg Prod.snd taken))

theorem Valid.drop (valid : service.Valid) (connection : Nat) :
    (if service.isHeld connection then service.dropConnection connection else service).Valid := by
  split
  · rename_i held
    refine valid.dropConnection ?_
    intro requester mem carried
    rw [Service.isHeld, Bool.not_eq_true', List.any_eq_false] at held
    exact held requester mem (by simp [carried])
  · exact valid

theorem Valid.closeContext (valid : service.Valid) (context : Nat) :
    { service with closedContexts := context :: service.closedContexts }.Valid :=
  ⟨valid.sound, valid.roster, valid.attended, valid.connections_below, valid.closed_invalid⟩

theorem shutdown_connections (service : Service) :
    service.shutdown.connections = service.connections.map fun leased =>
      if service.pool.shutdown.2.contains leased.id then { leased with valid := false }
      else leased :=
  rfl

theorem Valid.shutdown (valid : service.Valid) : service.shutdown.Valid := by
  have same_ids : (service.shutdown.connections.map (·.id)) = service.connections.map (·.id) := by
    rw [Service.shutdown, List.map_map]
    refine List.map_congr_left fun leased _ => ?_
    rw [Function.comp_apply]
    split <;> rfl
  refine ⟨⟨?_, valid.sound.shutdown.slots_below⟩, ?_, ?_, ?_, ?_⟩
  · exact valid.sound.shutdown.ledger.map_connections (fun leased => by split <;> rfl)
      (fun leased => by split <;> rfl) (fun leased => by split <;> rfl)
  · rw [same_ids]
    exact valid.roster
  · rw [Service.shutdown]
    dsimp only
    rw [TcpPool.shutdown_tasks]
    exact valid.attended
  · intro leased mem
    obtain ⟨found, found_mem, rfl⟩ := List.mem_map.mp mem
    have below := valid.connections_below found found_mem
    split <;> exact below
  · intro _ leased mem
    rw [shutdown_connections] at mem
    obtain ⟨found, found_mem, rfl⟩ := List.mem_map.mp mem
    by_cases closed : service.pool.closed = true
    · have invalid := valid.closed_invalid closed found found_mem
      split
      · rfl
      · exact invalid
    · have reached := valid.sound.shutdown_reaches (by simpa using closed) found_mem
      rw [if_pos (by simpa using reached)]

/-- A request that fails at once. -/
theorem Valid.refuse (valid : service.Valid) (endpoint : Endpoint) (context : Option Nat)
    (error : ConnectError) :
    Valid { service with
      pool := service.pool.countFailure
      requesters := service.requesters ++
        [{ id := service.next, endpoint, context
           handoff := (({} : Handoff Nat).resolve (service.route context) (.error error)).1
           answer := some (.error error) }]
      next := service.next + 1 } := by
  have resolved_proper := Handoff.resolve_proper ({} : Handoff Nat) (service.route context)
    (.error error) Handoff.proper_new rfl
  have nothing : (({} : Handoff Nat).resolve (service.route context) (.error error)).1.connection? =
      none := TcpPool.connection_of_error _ Handoff.proper_new rfl
  have not_held := Handoff.resolve_sender_ne_held ({} : Handoff Nat) (service.route context)
    (.error error)
  have new_perm := fun requester : Requester =>
    (List.perm_append_singleton requester service.requesters).symm
  refine ⟨valid.sound.countFailure, ?_, ?_, ?_, valid.closed_invalid⟩
  · refine ((valid.roster.mono (Nat.le_succ _) fun _ mem => mem).enter ?_ (Nat.lt_succ_self _)
      (Requester.faithful_of_nothing resolved_proper (fun held => absurd held not_held) nothing rfl)
      nothing).perm (new_perm _)
    exact fun other mem => Nat.ne_of_lt (valid.roster.below other mem)
  · exact (valid.attended.refuse not_held).perm (new_perm _) (.refl _)
  · exact fun leased mem => Nat.lt_succ_of_lt (valid.connections_below leased mem)

/-- A request that a task is to serve. -/
theorem Valid.spawn (valid : service.Valid) (endpoint : Endpoint) (protocol : Http.Version)
    (context : Option Nat) :
    Valid { service with
      pool := { service.pool with
        tasks := service.pool.tasks ++ [{ id := service.next, endpoint, protocol }] }
      requesters := service.requesters ++ [{ id := service.next, endpoint, context }]
      next := service.next + 1 } := by
  have new_requester : ∀ other ∈ service.requesters, other.id ≠ service.next :=
    fun other mem => Nat.ne_of_lt (valid.roster.below other mem)
  have new_task : ∀ other ∈ service.pool.tasks, other.id ≠ service.next := by
    intro other mem
    obtain ⟨requester, requester_mem, same_id, _⟩ := valid.attended.awaited other mem
    rw [← same_id]
    exact new_requester requester requester_mem
  have requesters_perm := fun requester : Requester =>
    (List.perm_append_singleton requester service.requesters).symm
  have tasks_perm := fun task : ServeTask =>
    (List.perm_append_singleton task service.pool.tasks).symm
  refine ⟨⟨?_, valid.sound.slots_below⟩, ?_, ?_, ?_, valid.closed_invalid⟩
  · exact (valid.sound.ledger.spawn rfl new_task).perm (.refl _) (tasks_perm _) (.refl _)
  · exact ((valid.roster.mono (Nat.le_succ _) fun _ mem => mem).enter new_requester
      (Nat.lt_succ_self _)
      (Requester.faithful_of_nothing Handoff.proper_new (fun _ => rfl) rfl rfl) rfl).perm
      (requesters_perm _)
  · exact (valid.attended.enter rfl rfl rfl).perm (requesters_perm _) (tasks_perm _)
  · exact fun leased mem => Nat.lt_succ_of_lt (valid.connections_below leased mem)

theorem Valid.submit (valid : service.Valid) (runtime : Bool) (endpoint : Endpoint)
    (protocol : Http.Version) (context : Option Nat) :
    (service.submit runtime endpoint protocol context).Valid := by
  rw [Service.submit, TcpPool.submit]
  by_cases closed : service.pool.closed = true
  · rw [if_pos closed]
    exact valid.refuse endpoint context .poolClosed
  · rw [if_neg closed]
    cases runtime with
    | true => exact valid.spawn endpoint protocol context
    | false => exact valid.refuse endpoint context (.io endpoint.text .noRuntime)

/-- The requester whom a task serves waits for the connection that the task dials. -/
theorem Valid.requester_of_task (valid : service.Valid) (mem : requester ∈ service.requesters)
    {task : ServeTask} (task_mem : task ∈ service.pool.tasks) (same_id : task.id = requester.id) :
    requester.endpoint = task.endpoint ∧ requester.handoff.sender = .held := by
  obtain ⟨found, found_mem, found_id, facts⟩ := valid.attended.awaited task task_mem
  obtain rfl := Identity.eq_of_identity valid.roster.distinct found_mem mem
    (found_id.trans same_id)
  exact facts

/-- Nothing but the next identity changes if there is no task. -/
theorem Valid.serve_of_no_task (valid : service.Valid) (mem : requester ∈ service.requesters)
    (absent : service.pool.task? requester.id = none) (look : TcpPool.FirstLook)
    (dialed : Dialed) :
    service.serve requester.id look dialed = { service with next := service.next + 1 } := by
  have no_turn : service.turnOf requester look dialed =
      ⟨service.pool, requester.handoff, .waiting⟩ := TcpPool.turn_of_no_task absent _ _ _ _
  have no_dial :
      service.pool.beginsDial look (.ofHandoff requester.handoff) requester.id = false := by
    rw [TcpPool.beginsDial, absent]
  have found : service.requester? requester.id = some requester :=
    Identity.find_of_mem valid.roster.distinct mem
  have same_requesters : service.requesters.map (fun other =>
      if other.id == requester.id then
        other.afterTurn service.next ⟨service.pool, requester.handoff, .waiting⟩ false
      else other) = service.requesters :=
    Identity.map_eq_self valid.roster.distinct mem rfl
  rw [Service.serve, found]
  dsimp only
  rw [no_turn, no_dial, Service.updateRequester, same_requesters]
  exact congrArg (fun connections => { service with connections, next := service.next + 1 })
    (List.append_nil _)

theorem Valid.later (valid : service.Valid) : Valid { service with next := service.next + 1 } :=
  ⟨valid.sound, valid.roster.mono (Nat.le_succ _) fun _ mem => mem, valid.attended,
    fun leased mem => Nat.lt_succ_of_lt (valid.connections_below leased mem),
    valid.closed_invalid⟩

theorem mem_made {result : TcpPool.TurnResult} {endpoint : Endpoint} {leased : LeasedConnection} :
    leased ∈ result.made connection endpoint ↔
      ∃ slot, result.leasedFrom? = some slot ∧ leased = { id := connection, endpoint, slot } := by
  rw [TcpPool.TurnResult.made, List.mem_map]
  constructor
  · rintro ⟨slot, slot_mem, rfl⟩
    exact ⟨slot, Option.mem_toList.mp slot_mem, rfl⟩
  · rintro ⟨slot, leased_from, rfl⟩
    exact ⟨slot, Option.mem_toList.mpr leased_from, rfl⟩

/-- What a requester gets from a turn is what the pool has answered in it. -/
theorem faithful_of_turned {pool : TcpPool} {connections : List LeasedConnection}
    {task : ServeTask} {turn : TcpPool.Turn}
    (turned : pool.Turned connections task connection requester.handoff turn)
    (faithful : requester.Faithful) (held : requester.handoff.sender = .held) (begun : Bool) :
    (requester.afterTurn connection turn begun).Faithful := by
  have unanswered := faithful.unanswered held
  have answer_eq : (requester.afterTurn connection turn begun).answer =
      turn.result.answer? connection := by
    rw [Requester.afterTurn, unanswered, Option.or_none]
  refine ⟨turned.proper, ?_, ?_, ?_⟩
  · intro still_held
    rcases turned.rests with ⟨_, nothing, _⟩ | ⟨not_held, _⟩
    · rw [answer_eq, nothing]
    · exact absurd still_held not_held
  · intro other carries
    obtain ⟨slot, leased_from, rfl⟩ :=
      Option.map_eq_some_iff.mp (turned.carried.symm.trans carries)
    rw [answer_eq, TcpPool.TurnResult.answer_of_leasedFrom leased_from]
  · intro other outcome_eq
    have answered := faithful.outcome_answer other outcome_eq
    rw [unanswered] at answered
    cases answered

/-- A turn of the task of a requester. -/
theorem Valid.turned (valid : service.Valid) (mem : requester ∈ service.requesters)
    {task : ServeTask} (task_mem : task ∈ service.pool.tasks) (task_id : task.id = requester.id)
    (look : TcpPool.FirstLook) (dialed : Dialed) :
    service.pool.Turned service.connections task service.next requester.handoff
      (service.turnOf requester look dialed) := by
  rw [turnOf, ← task_id]
  exact valid.sound.turn task_mem
    (fun other other_mem => Nat.ne_of_lt (valid.connections_below other other_mem))
    (valid.roster.faithful requester mem).proper
    (valid.requester_of_task mem task_mem task_id).2 _ _ _

/-- No requester carries the next connection before it is made. -/
theorem Valid.not_carried_next (valid : service.Valid) {other : Requester}
    (mem : other ∈ service.requesters) : other.handoff.connection? ≠ some service.next := by
  intro carries
  obtain ⟨leased, leased_mem, leased_id⟩ :=
    List.mem_map.mp (valid.roster.carried_exists other mem service.next carries)
  exact Nat.ne_of_lt (valid.connections_below leased leased_mem) leased_id

theorem Valid.serve_task (valid : service.Valid) (mem : requester ∈ service.requesters)
    {task : ServeTask} (task_mem : task ∈ service.pool.tasks) (task_id : task.id = requester.id)
    (look : TcpPool.FirstLook) (dialed : Dialed) :
    (service.serve requester.id look dialed).Valid := by
  obtain ⟨endpoint_eq, held⟩ := valid.requester_of_task mem task_mem task_id
  have turned := valid.turned mem task_mem task_id look dialed
  have roster := valid.roster.perm (valid.requesters_perm mem)
  have attended := valid.attended.perm (valid.requesters_perm mem) (.refl _)
  have found : service.requester? requester.id = some requester :=
    Identity.find_of_mem valid.roster.distinct mem
  rw [Service.serve, found]
  dsimp only
  generalize service.turnOf requester look dialed = turn at turned
  generalize service.pool.beginsDial look (.ofHandoff requester.handoff) requester.id = begun
  have updated_perm := (valid.updated_perm mem (·.afterTurn service.next turn begun)).symm
  have same_id : (requester.afterTurn service.next turn begun).id = requester.id := rfl
  rw [endpoint_eq]
  refine ⟨?_, ?_, ?_, ?_, ?_⟩
  · exact ⟨turned.sound.ledger.perm (.refl _) (.refl _) List.perm_append_comm,
      turned.sound.slots_below⟩
  · refine Roster.perm ((roster.mono (Nat.le_succ _) ?_).exchange same_id ?_ ?_) updated_perm
    · intro id id_mem
      rw [List.map_append]
      exact List.mem_append_left _ id_mem
    · exact faithful_of_turned turned (valid.roster.faithful requester mem) held begun
    · intro connection carries
      obtain ⟨slot, leased_from, rfl⟩ :=
        Option.map_eq_some_iff.mp (turned.carried.symm.trans carries)
      constructor
      · rw [List.map_append]
        exact List.mem_append_right _
          (List.mem_map.mpr ⟨_, mem_made.mpr ⟨slot, leased_from, rfl⟩, rfl⟩)
      · intro other other_mem also
        exact valid.not_carried_next (Identity.mem_of_mem_others other_mem) also
  · refine Attended.perm (attended.turn roster.apart same_id ?_ ?_) updated_perm (.refl _)
    · rw [← task_id]
      exact turned.follows.tasks_iff
    · rw [← task_id]
      rcases turned.rests with ⟨same, _, stage, still_mem⟩ | answered
      · have still_held : turn.handoff.sender = .held := by rw [same, held]
        refine Or.inl ⟨still_held, ⟨_, still_mem, rfl⟩, ?_⟩
        intro other other_mem other_id
        have other_eq := Identity.eq_of_identity turned.sound.ledger.tasks_distinct other_mem
          still_mem other_id
        rw [other_eq]
        exact endpoint_eq
      · exact Or.inr answered
  · intro leased leased_mem
    rcases List.mem_append.mp leased_mem with old | is_new
    · exact Nat.lt_succ_of_lt (valid.connections_below leased old)
    · obtain ⟨_, _, rfl⟩ := mem_made.mp is_new
      exact Nat.lt_succ_self _
  · intro closed leased leased_mem
    have closed_before : service.pool.closed = true := turned.follows.closed_eq.symm.trans closed
    rcases List.mem_append.mp leased_mem with old | is_new
    · exact valid.closed_invalid closed_before leased old
    · obtain ⟨slot, leased_from, _⟩ := mem_made.mp is_new
      rw [(turned.closed_refuses closed_before).1] at leased_from
      cases leased_from

/-- What a turn of a task may be about: nobody, somebody without a task, or a task. -/
theorem Valid.serve_cases (valid : service.Valid) (id : Nat) (look : TcpPool.FirstLook)
    (dialed : Dialed) :
    service.serve id look dialed = service ∨
      service.serve id look dialed = { service with next := service.next + 1 } ∨
      ∃ requester ∈ service.requesters, ∃ task ∈ service.pool.tasks,
        requester.id = id ∧ task.id = requester.id := by
  cases found : service.requester? id with
  | none =>
      refine Or.inl ?_
      rw [Service.serve, found]
  | some requester =>
      obtain ⟨mem, rfl⟩ := mem_of_requester found
      cases task_found : service.pool.task? requester.id with
      | none => exact Or.inr (Or.inl (valid.serve_of_no_task mem task_found look dialed))
      | some task =>
          obtain ⟨task_mem, task_id⟩ := Identity.mem_of_find task_found
          exact Or.inr (Or.inr ⟨requester, mem, task, task_mem, rfl, task_id⟩)

theorem Valid.serve (valid : service.Valid) (id : Nat) (look : TcpPool.FirstLook)
    (dialed : Dialed) : (service.serve id look dialed).Valid := by
  rcases valid.serve_cases id look dialed with
    same | later | ⟨requester, mem, task, task_mem, rfl, task_id⟩
  · rw [same]
    exact valid
  · rw [later]
    exact valid.later
  · exact valid.serve_task mem task_mem task_id look dialed

/-- No action puts a pool in service out of order. -/
theorem Valid.step (valid : service.Valid) (action : Action) : (service.step action).Valid := by
  cases action with
  | submit runtime endpoint protocol context =>
      exact valid.submit runtime endpoint protocol context
  | serve request look dialed => exact valid.serve request look dialed
  | cancel request => exact valid.cancel request
  | forsake request => exact valid.forsake request
  | look request => exact valid.look request
  | deliver request => exact valid.deliver request
  | discard request => exact valid.discard request
  | dropConnection connection => exact valid.drop connection
  | closeContext context => exact valid.closeContext context
  | shutdown => exact valid.shutdown

/-- Nor do any number of actions. -/
theorem Valid.run (valid : service.Valid) (actions : List Action) :
    (service.run actions).Valid := by
  induction actions generalizing service with
  | nil => exact valid
  | cons action rest induction => exact induction (valid.step action)

end Courier.Service
