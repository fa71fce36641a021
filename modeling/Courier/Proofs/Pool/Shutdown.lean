import Courier.Proofs.Pool.Closed
import Courier.Proofs.Pool.Frames

/-!
# After a shutdown

No connection is handed over after a shutdown and none that exists is valid.  A request that waits
in the queue of a slot when the pool is shut down is refused; a request whose task has not started
or is dialing may be served by the network all the same, and fail in any way.
-/

namespace Courier.Service

variable {service : Service} {requester : Requester} {action : Action} {answer : Answer Nat}
  {connection : Nat}

theorem submit_requesters (service : Service) (runtime : Bool) (endpoint : Endpoint)
    (protocol : Http.Version) (context : Option Nat) :
    ∃ requester, (service.submit runtime endpoint protocol context).requesters =
      service.requesters ++ [requester] ∧
        ∀ connection, requester.answer ≠ some (.ok connection) := by
  rw [submit, TcpPool.submit]
  by_cases closed : service.pool.closed = true
  · rw [if_pos closed]
    exact ⟨_, rfl, by simp⟩
  · rw [if_neg closed]
    cases runtime with
    | true => exact ⟨_, rfl, by simp⟩
    | false => exact ⟨_, rfl, by simp⟩

/-! ## Connections -/

/-- A closed pool hands no connection to anybody. -/
theorem Valid.step_answers (valid : service.Valid) (closed : service.pool.closed = true)
    {told : Requester} (mem : told ∈ (service.step action).requesters)
    (answered : told.answer = some (.ok connection)) :
    ∃ requester ∈ service.requesters, requester.id = told.id ∧
      requester.answer = some (.ok connection) := by
  by_cases quiet : (∀ request look dialed, action ≠ .serve request look dialed) ∧
      ∀ runtime endpoint protocol context, action ≠ .submit runtime endpoint protocol context
  · obtain ⟨silent, is_silent, requesters_eq⟩ := service.step_silent quiet.1 quiet.2
    rw [requesters_eq] at mem
    obtain ⟨requester, requester_mem, rfl⟩ := List.mem_map.mp mem
    obtain ⟨same_id, _, same_answer⟩ := is_silent requester
    exact ⟨requester, requester_mem, same_id.symm, same_answer.symm.trans answered⟩
  · cases action with
    | submit runtime endpoint protocol context =>
        obtain ⟨requester, requesters_eq, no_connection⟩ :=
          service.submit_requesters runtime endpoint protocol context
        rw [Service.step, requesters_eq] at mem
        rcases List.mem_append.mp mem with old | is_new
        · exact ⟨told, old, rfl, answered⟩
        · obtain rfl := List.mem_singleton.mp is_new
          exact absurd answered (no_connection connection)
    | serve request look dialed =>
        rw [Service.step] at mem
        rcases valid.serve_cases request look dialed with
          same | later | ⟨requester, requester_mem, task, task_mem, rfl, task_id⟩
        · rw [same] at mem
          exact ⟨told, mem, rfl, answered⟩
        · rw [later] at mem
          exact ⟨told, mem, rfl, answered⟩
        · have turned := valid.turned requester_mem task_mem task_id look dialed
          rcases List.mem_cons.mp
            ((valid.serve_requesters requester_mem look dialed).mem_iff.mp mem) with rfl | other
          · have no_connection := (turned.closed_refuses closed).2 connection
            refine ⟨requester, requester_mem, rfl, ?_⟩
            rw [Requester.afterTurn, Option.or_eq_some_iff] at answered
            rcases answered with now | ⟨_, before⟩
            · exact absurd now no_connection
            · exact before
          · exact ⟨told, Identity.mem_of_mem_others other, rfl, answered⟩
    | _ => exact absurd (by simp) quiet

theorem Valid.run_answers (valid : service.Valid) (closed : service.pool.closed = true)
    (actions : List Action) {told : Requester} (mem : told ∈ (service.run actions).requesters)
    (answered : told.answer = some (.ok connection)) :
    ∃ requester ∈ service.requesters, requester.id = told.id ∧
      requester.answer = some (.ok connection) := by
  induction actions generalizing service with
  | nil => exact ⟨told, mem, rfl, answered⟩
  | cons action rest induction =>
      obtain ⟨later, later_mem, later_id, later_answered⟩ :=
        induction (valid.step action) (valid.step_closed closed action) mem
      obtain ⟨requester, requester_mem, same_id, before⟩ :=
        valid.step_answers closed later_mem later_answered
      exact ⟨requester, requester_mem, same_id.trans later_id, before⟩

/-- After a shutdown no connection that exists is valid, also not one that is on its way to a
requester, and nobody gets or is handed a connection that was not handed to it before. -/
theorem shutdown_invalidates (limits : PoolLimits) (tls : TlsOptions)
    (connector : Option Connector) (before after : List Action) :
    let dying := (start limits tls connector).run before
    let service := dying.run (.shutdown :: after)
    (∀ leased ∈ service.connections, leased.valid = false) ∧
      (∀ requester ∈ service.requesters, ∀ connection,
        requester.handoff.connection? = some connection →
          ∃ leased ∈ service.connections, leased.id = connection) ∧
      ∀ requester ∈ service.requesters, ∀ connection,
        requester.answer = some (.ok connection) ∨
            requester.handoff.connection? = some connection ∨
            requester.outcome = some (.ok connection) →
          ∃ earlier ∈ dying.requesters, earlier.id = requester.id ∧
            earlier.answer = some (.ok connection) := by
  intro dying service
  have dying_valid : dying.Valid := (start_valid limits tls connector).run before
  have shut_valid : (dying.step .shutdown).Valid := dying_valid.step .shutdown
  have shut_closed : (dying.step .shutdown).pool.closed = true := dying.pool.shutdown_closed
  have valid : service.Valid := shut_valid.run after
  have closed : service.pool.closed = true := shut_valid.run_closed shut_closed after
  refine ⟨valid.closed_invalid closed, ?_, ?_⟩
  · intro requester mem connection carries
    exact List.mem_map.mp (valid.roster.carried_exists requester mem connection carries)
  · intro requester mem connection handed
    have faithful := valid.roster.faithful requester mem
    have answered : requester.answer = some (.ok connection) := by
      rcases handed with answered | carries | got
      · exact answered
      · exact faithful.carried_answer connection carries
      · exact faithful.outcome_answer connection got
    exact shut_valid.run_answers shut_closed after mem answered

/-! ## Requests -/

/-- A turn of a task changes nobody but the requester it serves, which waits. -/
theorem Valid.serve_mem (valid : service.Valid) (mem : requester ∈ service.requesters)
    (request : Nat) (look : TcpPool.FirstLook) (dialed : Dialed) :
    requester ∈ (service.serve request look dialed).requesters ∨
      (requester.id = request ∧ requester.handoff.sender = .held) := by
  rcases valid.serve_cases request look dialed with
    same | later | ⟨served, served_mem, task, task_mem, rfl, task_id⟩
  · rw [same]
    exact Or.inl mem
  · rw [later]
    exact Or.inl mem
  · rcases List.mem_cons.mp ((valid.requesters_perm served_mem).mem_iff.mp mem) with rfl | other
    · exact Or.inr ⟨rfl, (valid.requester_of_task mem task_mem task_id).2⟩
    · exact Or.inl ((valid.serve_requesters served_mem look dialed).mem_iff.mpr
        (List.mem_cons_of_mem _ other))

/-- Whether an action lets a requester be. -/
def Action.Spares (action : Action) (request : Nat) : Prop :=
  action ≠ .cancel request ∧ action ≠ .forsake request

/-- A requester waits for its answer and has not given up. -/
structure Waits (service : Service) (requester : Requester) : Prop where
  mem : requester ∈ service.requesters
  held : requester.handoff.sender = .held
  wanted : requester.handoff.isCancelled = false

/-- A request was told that the pool is closed, and no dial was begun for it. -/
def Refused (service : Service) (requester : Requester) : Prop :=
  ∃ told ∈ service.requesters, told.id = requester.id ∧ told.dials = requester.dials ∧
    told.answer = some (.error .poolClosed)

/-- A turn after a shutdown refuses the request of its task exactly if a closed slot does, or a
connection that came too late. -/
theorem Valid.refused_iff (valid : service.Valid) (closed : service.pool.closed = true)
    (waits : service.Waits requester) {task : ServeTask} (task_mem : task ∈ service.pool.tasks)
    (task_id : task.id = requester.id) (look : TcpPool.FirstLook) (dialed : Dialed) :
    (service.serve requester.id look dialed).Refused requester ↔
      service.pool.Refuses task dialed := by
  have served_perm := valid.serve_requesters waits.mem look dialed
  have served_valid := valid.serve requester.id look dialed
  have unanswered := (valid.roster.faithful requester waits.mem).unanswered waits.held
  have refuses : service.pool.beginsDial look (.ofHandoff requester.handoff) requester.id = false ∧
      (service.turnOf requester look dialed).result.answer? service.next =
        some (.error .poolClosed) ↔ service.pool.Refuses task dialed := by
    rw [turnOf, ← task_id]
    exact TcpPool.turn_refuses_iff valid.sound task_mem closed waits.wanted look dialed _
  rw [← refuses, Refused]
  constructor
  · rintro ⟨told, told_mem, same_id, same_dials, answered⟩
    obtain rfl := Identity.eq_of_identity served_valid.roster.distinct told_mem
      (served_perm.mem_iff.mpr List.mem_cons_self) same_id
    rw [Requester.afterTurn, unanswered, Option.or_none] at answered
    refine ⟨?_, answered⟩
    rw [Requester.afterTurn] at same_dials
    exact Bool.toNat_eq_zero.mp (Nat.add_left_cancel same_dials)
  · rintro ⟨no_dial, told⟩
    refine ⟨_, served_perm.mem_iff.mpr List.mem_cons_self, rfl, ?_, ?_⟩
    · rw [Requester.afterTurn, no_dial]
      rfl
    · rw [Requester.afterTurn, told]
      rfl

/-- A request that was answered stays answered, and nothing is dialed for it. -/
theorem Valid.step_answered (valid : service.Valid) (mem : requester ∈ service.requesters)
    (answered : requester.answer = some answer) (action : Action) :
    ∃ told ∈ (service.step action).requesters, told.id = requester.id ∧
      told.dials = requester.dials ∧ told.answer = some answer := by
  by_cases quiet : (∀ request look dialed, action ≠ .serve request look dialed) ∧
      ∀ runtime endpoint protocol context, action ≠ .submit runtime endpoint protocol context
  · obtain ⟨silent, is_silent, requesters_eq⟩ := service.step_silent quiet.1 quiet.2
    obtain ⟨same_id, same_dials, same_answer⟩ := is_silent requester
    rw [requesters_eq]
    exact ⟨silent requester, List.mem_map.mpr ⟨requester, mem, rfl⟩, same_id, same_dials,
      same_answer.trans answered⟩
  · cases action with
    | submit runtime endpoint protocol context =>
        obtain ⟨_, requesters_eq, _⟩ :=
          service.submit_requesters runtime endpoint protocol context
        rw [Service.step, requesters_eq]
        exact ⟨requester, List.mem_append_left _ mem, rfl, rfl, answered⟩
    | serve request look dialed =>
        rcases valid.serve_mem mem request look dialed with kept | ⟨_, held⟩
        · exact ⟨requester, kept, rfl, rfl, answered⟩
        · rw [(valid.roster.faithful requester mem).unanswered held] at answered
          cases answered
    | _ => exact absurd (by simp) quiet

theorem Valid.run_refused (valid : service.Valid) (refused : service.Refused requester)
    (actions : List Action) : (service.run actions).Refused requester := by
  induction actions generalizing service with
  | nil => exact refused
  | cons action rest induction =>
      obtain ⟨told, mem, told_id, told_dials, answered⟩ := refused
      obtain ⟨later, later_mem, later_id, later_dials, later_answered⟩ :=
        valid.step_answered mem answered action
      exact induction (valid.step action) ⟨later, later_mem, later_id.trans told_id,
        later_dials.trans told_dials, later_answered⟩

/-! ## Waiting requesters -/

theorem mem_updateRequester_of_ne {id : Nat} {change : Requester → Requester}
    (mem : requester ∈ service.requesters) (different : requester.id ≠ id) :
    requester ∈ (service.updateRequester id change).requesters :=
  List.mem_map.mpr ⟨requester, mem, if_neg (by simpa using different)⟩

theorem mem_changeHandoff {id : Nat} {change : Handoff Nat → Handoff Nat × Option (Answer Nat)}
    (mem : requester ∈ service.requesters)
    (unchanged : requester.id = id → (change requester.handoff).1 = requester.handoff) :
    requester ∈ (service.changeHandoff id change).requesters := by
  rw [changeHandoff_requesters]
  refine List.mem_map.mpr ⟨requester, mem, ?_⟩
  split
  · rename_i same_id
    rw [unchanged (eq_of_beq same_id)]
  · rfl

theorem Valid.look_of_waits (valid : service.Valid) (waits : service.Waits requester) :
    service.look requester.id = service := by
  have found : service.requester? requester.id = some requester :=
    Identity.find_of_mem valid.roster.distinct waits.mem
  have wanted : requester.handoff.cancelled = false := (Bool.or_eq_false_iff.mp waits.wanted).1
  have nothing : requester.handoff.arrived = none :=
    (valid.roster.faithful requester waits.mem).proper (by simp [waits.held])
  have pending : requester.handoff.poll = .pending := by
    simp [Handoff.poll, wanted, nothing, waits.held]
  rw [Service.look, found]
  dsimp only
  split
  · rfl
  · rw [Handoff.take, pending]

theorem discard_of_waits (valid : service.Valid) (waits : service.Waits requester) :
    service.discard requester.id = service := by
  have found : service.requester? requester.id = some requester :=
    Identity.find_of_mem valid.roster.distinct waits.mem
  rw [discard, found]
  simp only [waits.held]

/-- Nobody but its task and itself can change a requester that waits. -/
theorem Valid.step_waits (valid : service.Valid) (waits : service.Waits requester)
    (spares : action.Spares requester.id)
    (no_turn : ∀ look dialed, action ≠ .serve requester.id look dialed) :
    (service.step action).Waits requester := by
  refine ⟨?_, waits.held, waits.wanted⟩
  have mem := waits.mem
  cases action with
  | submit runtime endpoint protocol context =>
      obtain ⟨_, requesters_eq, _⟩ := service.submit_requesters runtime endpoint protocol context
      rw [Service.step, requesters_eq]
      exact List.mem_append_left _ mem
  | serve request look dialed =>
      rcases valid.serve_mem mem request look dialed with kept | ⟨rfl, _⟩
      · exact kept
      · exact absurd rfl (no_turn look dialed)
  | cancel request =>
      exact mem_changeHandoff mem fun same => absurd (congrArg Action.cancel same.symm) spares.1
  | forsake request =>
      exact mem_changeHandoff mem fun same => absurd (congrArg Action.forsake same.symm) spares.2
  | deliver request =>
      refine mem_changeHandoff mem fun _ => ?_
      simp only [Handoff.publish, waits.held]
  | look request =>
      rw [Service.step]
      by_cases own : requester.id = request
      · rw [← own, valid.look_of_waits waits]
        exact mem
      · rw [Service.look]
        split
        · exact mem
        · split
          · exact mem
          · split
            · exact mem
            · exact mem_updateRequester_of_ne mem own
  | discard request =>
      rw [Service.step]
      by_cases own : requester.id = request
      · rw [← own, discard_of_waits valid waits]
        exact mem
      · rw [Service.discard]
        split
        · exact mem
        · split
          · exact mem_changeHandoff mem fun same => absurd same own
          · exact mem
  | dropConnection connection =>
      rw [Service.step]
      split
      · rw [dropConnection_requesters]
        exact mem
      · exact mem
  | closeContext context => exact mem
  | shutdown => exact mem

/-- A requester waits whose task is in the queue of a closed slot. -/
structure Stranded (service : Service) (requester : Requester) : Prop where
  waits : service.Waits requester
  queued : ∃ task ∈ service.pool.tasks, task.id = requester.id ∧
    ∃ kept ∈ service.pool.slots, task.stage = .queued kept.id ∧ kept.slot.closed = true

/-- It stays there until its task has a turn. -/
theorem Valid.step_stranded (valid : service.Valid) (closed : service.pool.closed = true)
    (stranded : service.Stranded requester) (spares : action.Spares requester.id)
    (no_turn : ∀ look dialed, action ≠ .serve requester.id look dialed) :
    (service.step action).Stranded requester := by
  obtain ⟨waits, task, task_mem, task_id, kept, kept_mem, queued, slot_closed⟩ := stranded
  obtain ⟨moved, moves, follows⟩ := valid.step_follows fun _ : action = .shutdown => closed
  have not_moved : task.id ≠ moved := by
    rw [task_id]
    rcases moves with rfl | ⟨look, dialed, rfl⟩
    · exact Nat.ne_of_lt (valid.roster.below requester waits.mem)
    · rintro rfl
      exact no_turn look dialed rfl
  have still_mem := (follows.tasks_iff task not_moved).mpr task_mem
  obtain ⟨kept', kept'_mem, same_id, _⟩ :=
    (valid.step action).sound.ledger.task_slot task still_mem kept.id (by rw [queued]; rfl)
  refine ⟨valid.step_waits waits spares no_turn, task, still_mem, task_id, kept', kept'_mem, ?_, ?_⟩
  · rw [queued, same_id]
  · rcases follows.slots_from kept' kept'_mem with ⟨found, found_mem, found_id, terms_eq⟩ | is_new
    · obtain rfl := valid.sound.eq_of_id kept_mem found_mem (found_id.trans same_id)
      exact (congrArg Slot.Terms.closed terms_eq).trans slot_closed
    · rw [same_id] at is_new
      exact absurd (valid.sound.slots_below kept kept_mem) (Nat.not_lt.mpr is_new)

/-- The next turn of its task refuses its request. -/
theorem Valid.serve_stranded (valid : service.Valid) (closed : service.pool.closed = true)
    (stranded : service.Stranded requester) (look : TcpPool.FirstLook) (dialed : Dialed) :
    (service.serve requester.id look dialed).Refused requester := by
  obtain ⟨waits, task, task_mem, task_id, kept, kept_mem, queued, slot_closed⟩ := stranded
  have not_dialing : ∀ slot, task.stage ≠ .dialing slot := by
    rw [queued]
    exact nofun
  have uses : task.stage.slot? = some kept.id := by rw [queued]; rfl
  have ledger := valid.sound.ledger
  rw [valid.refused_iff closed waits task_mem task_id,
    TcpPool.refuses_of_not_dialing not_dialing, ← ledger.endpoint_of_task kept_mem task_mem uses]
  exact ⟨kept, Identity.find_of_mem ledger.endpoints_distinct kept_mem,
    ledger.references_of_task kept_mem task_mem uses, slot_closed⟩

/-- However others act, a request in the queue of a closed slot waits until its task has a turn,
and is refused then. -/
theorem Valid.run_stranded (valid : service.Valid) (closed : service.pool.closed = true)
    (stranded : service.Stranded requester) {actions : List Action}
    (spares : ∀ action ∈ actions, action.Spares requester.id) :
    ((service.run actions).Stranded requester ∧
        ∀ look dialed, Action.serve requester.id look dialed ∉ actions) ∨
      (service.run actions).Refused requester := by
  induction actions generalizing service with
  | nil => exact Or.inl ⟨stranded, fun _ _ => List.not_mem_nil⟩
  | cons action rest induction =>
      have rest_spares : ∀ other ∈ rest, other.Spares requester.id :=
        fun other mem => spares other (List.mem_cons_of_mem _ mem)
      by_cases turn : ∃ look dialed, action = .serve requester.id look dialed
      · obtain ⟨look, dialed, rfl⟩ := turn
        exact Or.inr ((valid.serve requester.id look dialed).run_refused
          (valid.serve_stranded closed stranded look dialed) rest)
      · have no_turn : ∀ look dialed, action ≠ .serve requester.id look dialed :=
          fun look dialed equation => turn ⟨look, dialed, equation⟩
        have still_stranded := valid.step_stranded closed stranded
          (spares action List.mem_cons_self) no_turn
        rcases induction (valid.step action) (valid.step_closed closed action) still_stranded
          rest_spares with ⟨later_stranded, later_no_turn⟩ | refused
        · refine Or.inl ⟨later_stranded, fun look dialed mem => ?_⟩
          rcases List.mem_cons.mp mem with first | later
          · exact no_turn look dialed first.symm
          · exact later_no_turn look dialed later
        · exact Or.inr refused

/-- A shutdown strands whoever is in a queue. -/
theorem Valid.shutdown_stranded (valid : service.Valid) (is_open : service.pool.closed = false)
    (waits : service.Waits requester) {task : ServeTask} (task_mem : task ∈ service.pool.tasks)
    (task_id : task.id = requester.id) {slot : Nat} (queued : task.stage = .queued slot) :
    (service.step .shutdown).Stranded requester := by
  obtain ⟨kept, kept_mem, rfl, _⟩ :=
    valid.sound.ledger.task_slot task task_mem slot (by rw [queued]; rfl)
  have shut := TcpPool.shutdown_of_open is_open
  refine ⟨⟨waits.mem, waits.held, waits.wanted⟩, task, ?_, task_id,
    { kept with slot := kept.slot.close.1 }, ?_, queued, rfl⟩
  · rw [Service.step, Service.shutdown, shut]
    exact task_mem
  · rw [Service.step, Service.shutdown, shut]
    exact List.mem_map.mpr ⟨kept, kept_mem, rfl⟩

/-- When a shutdown fails a request for certain.  In every state after it, the next turn of the
task of a requester that waits refuses the request, without a dial, exactly if a closed slot in use
does so or a connection that came too late.  A request that waits in a queue when the pool is shut
down is refused in its next turn, whatever others do. -/
theorem shutdown_refuses_iff (limits : PoolLimits) (tls : TlsOptions)
    (connector : Option Connector) (before after : List Action) :
    let dying := (start limits tls connector).run before
    let service := dying.run (.shutdown :: after)
    (∀ requester, service.Waits requester →
      ∃ task ∈ service.pool.tasks, task.id = requester.id ∧ ∀ look dialed,
        (service.serve requester.id look dialed).Refused requester ↔
          service.pool.Refuses task dialed) ∧
      ∀ requester, dying.pool.closed = false → dying.Waits requester →
        ∀ task ∈ dying.pool.tasks, task.id = requester.id →
          ∀ slot, task.stage = .queued slot →
            (∀ action ∈ after, action.Spares requester.id) →
              (service.Waits requester ∧
                  ∀ look dialed, Action.serve requester.id look dialed ∉ after) ∨
                service.Refused requester := by
  intro dying service
  have dying_valid : dying.Valid := (start_valid limits tls connector).run before
  have shut_valid : (dying.step .shutdown).Valid := dying_valid.step .shutdown
  have shut_closed : (dying.step .shutdown).pool.closed = true := dying.pool.shutdown_closed
  have valid : service.Valid := shut_valid.run after
  have closed : service.pool.closed = true := shut_valid.run_closed shut_closed after
  constructor
  · intro requester waits
    obtain ⟨task, task_mem, task_id⟩ := valid.attended.served requester waits.mem waits.held
    exact ⟨task, task_mem, task_id, valid.refused_iff closed waits task_mem task_id⟩
  · intro requester is_open waits task task_mem task_id slot queued spares
    have stranded := dying_valid.shutdown_stranded is_open waits task_mem task_id queued
    rcases shut_valid.run_stranded shut_closed stranded spares with
      ⟨still_stranded, no_turn⟩ | refused
    · exact Or.inl ⟨still_stranded.waits, no_turn⟩
    · exact Or.inr refused

/-- A queued request is refused after a shutdown. -/
theorem queued_request_refused :
    let peer : Endpoint := { host := "127.0.0.1", port := 7009, secure := false }
    let before : List Action :=
      [.submit true peer .http11 none, .serve 0 .reservation .pending,
        .submit true peer .http11 none, .serve 2 .reservation .pending]
    let dying := (start { maxPoolSize := 1, maxWaitQueueSize := 1 } ⟨false, []⟩ none).run before
    (dying.run [.shutdown, .serve 2 .requester .pending]).Refused
      { id := 2, endpoint := peer, context := none } := by
  intro peer before dying
  have certain := (shutdown_refuses_iff { maxPoolSize := 1, maxWaitQueueSize := 1 } ⟨false, []⟩
    none before [.serve 2 .requester .pending]).2
  have waits : dying.Waits { id := 2, endpoint := peer, context := none } :=
    ⟨.tail _ (.head _), rfl, rfl⟩
  have task_mem : (⟨2, peer, .http11, .queued 0⟩ : ServeTask) ∈ dying.pool.tasks :=
    .tail _ (.head _)
  have spares : ∀ action ∈ [Action.serve 2 .requester .pending], action.Spares 2 := by
    intro action mem
    obtain rfl := List.mem_singleton.mp mem
    exact ⟨nofun, nofun⟩
  rcases certain _ rfl waits _ task_mem rfl 0 rfl spares with ⟨_, no_turn⟩ | refused
  · exact absurd List.mem_cons_self (no_turn .requester .pending)
  · exact refused

/-- A request whose task starts after the shutdown is dialed for, and fails as the network does. -/
theorem spawned_request_dialed :
    ¬∀ (limits : PoolLimits) (tls : TlsOptions) (connector : Option Connector)
      (before after : List Action),
      let dying := (start limits tls connector).run before
      let service := dying.run (.shutdown :: after)
      ∀ requester, dying.Waits requester → (∀ action ∈ after, action.Spares requester.id) →
        ∀ told ∈ service.requesters, told.id = requester.id →
          told.dials = requester.dials ∧
            (told.answer = none ∨ told.answer = some (.error .poolClosed)) := by
  intro claim
  let peer : Endpoint := { host := "127.0.0.1", port := 7009, secure := false }
  let unreachable : ConnectError := .io "tcp://127.0.0.1:7009" .unreachable
  have settled := claim { maxPoolSize := 1, maxWaitQueueSize := 1 } ⟨false, []⟩ none
    [.submit true peer .http11 none] [.serve 0 .reservation (.failed unreachable)]
    { id := 0, endpoint := peer, context := none } ⟨.head _, rfl, rfl⟩
    (fun action mem => by
      obtain rfl := List.mem_singleton.mp mem
      exact ⟨nofun, nofun⟩)
    { id := 0, endpoint := peer, context := none, dials := 1
      handoff := { sender := .gone, arrived := some (.error unreachable) }
      answer := some (.error unreachable) } (.head _) rfl
  exact absurd settled.1 (by decide)

end Courier.Service
