import Courier.Client
import Courier.Config.Load
import Courier.Proofs.Pool.Settlement
import Courier.Proofs.Pool.Shutdown

/-!
# Pools that are too large

A slot cannot have as many permits as a configuration may ask for.  If it can, the first request
for an endpoint opens a slot and is dialed for, and nobody is told that a request was abandoned
without a reason.  If it cannot, every task breaks down at its first turn and no connection is ever
made, although the configuration is valid.
-/

namespace Courier

/-- A valid configuration allows a connection. -/
theorem Config.Valid.maxPoolSize_ne_zero {config : Config} (valid : config.Valid) :
    config.pool.maxPoolSize.toNat ≠ 0 := by
  have all_but_last := (List.append_eq_nil_iff.mp valid).1
  have no_problem : (if config.pool.maxPoolSize == 0 then [Problem.zeroPoolSize] else []) = [] :=
    (List.append_eq_nil_iff.mp all_but_last).2
  intro zero
  rw [UInt64.toNat_inj.mp (zero.trans UInt64.toNat_zero.symm)] at no_problem
  cases no_problem

namespace TcpPool

variable {pool : TcpPool} {connections : List LeasedConnection} {task : ServeTask}
  {view : RequesterView}

/-- A task opens a slot of so many permits for its endpoint, and has one of them. -/
def Opens (pool : TcpPool) (view : RequesterView) (task : ServeTask) (permits : Nat) : Prop :=
  ∃ after kept, pool.start view task = (after, .ok kept.id) ∧ kept ∈ after.slots ∧
    kept.slot.endpoint = task.endpoint ∧ kept.slot.maxConnections = permits

/-- A pool without slots serves nobody yet. -/
theorem Sound.spawned_of_no_slot (sound : pool.Sound connections) (no_slot : pool.slots = [])
    (mem : task ∈ pool.tasks) : task.stage = .spawned := by
  have unused : ∀ slot, task.stage.slot? ≠ some slot := by
    intro slot uses
    obtain ⟨kept, kept_mem, _⟩ := sound.ledger.task_slot task mem slot uses
    rw [no_slot] at kept_mem
    exact List.not_mem_nil kept_mem
  cases stage : task.stage with
  | spawned => rfl
  | queued slot => exact absurd (by rw [stage]; rfl) (unused slot)
  | dialing slot => exact absurd (by rw [stage]; rfl) (unused slot)

theorem Sound.no_connection_of_no_slot (sound : pool.Sound connections)
    (no_slot : pool.slots = []) : connections = [] := by
  refine List.eq_nil_iff_forall_not_mem.mpr fun leased mem => ?_
  obtain ⟨kept, kept_mem, _⟩ := sound.ledger.connection_slot leased mem
  rw [no_slot] at kept_mem
  exact List.not_mem_nil kept_mem

theorem shutdown_no_slot (no_slot : pool.slots = []) : pool.shutdown.1.slots = [] := by
  cases closed : pool.closed with
  | true => rw [shutdown_of_closed closed, no_slot]
  | false => rw [shutdown_of_open closed, no_slot]; rfl

/-- An idle slot has a permit for whoever comes first. -/
theorem idleSlot_reserve (permits : pool.limits.maxPoolSize.toNat ≠ 0) (endpoint : Endpoint)
    (id : Nat) : ((pool.idleSlot endpoint).slot.reserve id).2 = .granted := by
  rw [Slot.reserve, if_neg (by simp [idleSlot, Slot.create]), if_pos]
  exact Nat.pos_of_ne_zero permits

/-- If a slot can have that many permits, the first request for an endpoint opens one. -/
theorem Sound.opens (sound : pool.Sound connections)
    (few : pool.limits.maxPoolSize.toNat ≤ permitLimit)
    (permits : pool.limits.maxPoolSize.toNat ≠ 0) (wanted : view.cancelled = false)
    (absent : pool.evictIdle.slotOf? task.endpoint = none) :
    pool.Opens view task pool.limits.maxPoolSize.toNat := by
  obtain ⟨cancelled, _⟩ | ⟨_, many, _⟩ | ⟨_, _, opened, kept, ensured, equation⟩ :=
    pool.start_cases view task
  · exact absurd (wanted.symm.trans cancelled) Bool.false_ne_true
  · exact absurd few (Nat.not_le.mpr many)
  · have kept_mem : kept ∈ opened.slots := by
      have is_kept := (sound.evictIdle.ensureSlot task.endpoint).2.1
      rw [ensured] at is_kept
      exact is_kept
    have kept_eq : kept = pool.evictIdle.idleSlot task.endpoint := by
      rw [← ensureSlot_of_absent absent, ensured]
    have granted : (kept.slot.reserve task.id).2 = .granted := by
      rw [kept_eq]
      exact pool.evictIdle.idleSlot_reserve permits task.endpoint task.id
    have terms_eq : (kept.slot.reserve task.id).1.terms =
        (pool.evictIdle.idleSlot task.endpoint).slot.terms := by
      rw [Slot.reserve_terms, kept_eq]
    rw [granted, afterReservation, if_neg (by simp [wanted])] at equation
    exact ⟨_, kept.update (fun _ => (kept.slot.reserve task.id).1) (· + 1), equation,
      reserving_mem kept_mem task.id, congrArg Slot.Terms.endpoint terms_eq,
      congrArg Slot.Terms.maxConnections terms_eq⟩

/-- A task that needs a slot of too many permits breaks down, unless its requester has given up;
no slot is made for it. -/
theorem start_of_too_many (many : permitLimit < pool.limits.maxPoolSize.toNat)
    (no_slot : pool.slots = []) (view : RequesterView) (task : ServeTask) :
    (pool.start view task).1.slots = [] ∧
      (pool.start view task).2 = .error (if view.cancelled then .givenUp else .crashed) := by
  have absent : ∀ endpoint, pool.evictIdle.slotOf? endpoint = none := by
    simp [evictIdle, slotOf?, no_slot]
  obtain ⟨cancelled, equation⟩ | ⟨wanted, _, _, equation⟩ | ⟨_, few | found, _⟩ :=
    pool.start_cases view task
  · rw [equation, cancelled]
    exact ⟨no_slot, rfl⟩
  · rw [equation, wanted]
    exact ⟨congrArg (List.filter _) no_slot, rfl⟩
  · exact absurd few (Nat.not_le.mpr many)
  · rw [absent] at found
    exact absurd found Bool.false_ne_true

/-- Such a task ends without a word. -/
theorem Sound.turn_of_too_many (sound : pool.Sound connections) (mem : task ∈ pool.tasks)
    (many : permitLimit < pool.limits.maxPoolSize.toNat) (no_slot : pool.slots = [])
    (network : Network) (look : FirstLook) (route : Handoff.Route) (connection : Nat)
    (handoff : Handoff Nat) :
    (∃ after : TcpPool, after.slots = [] ∧
        pool.turn network look route task.id connection handoff =
          ⟨after, handoff.dropSender.1, .silent⟩) ∧
      pool.beginsDial look (.ofHandoff handoff) task.id = false := by
  have found := task_of_mem sound mem
  have spawned : task.stage = .spawned := sound.spawned_of_no_slot no_slot mem
  have no_dial : ∀ slot, task.stage ≠ .dialing slot := by simp [spawned]
  have advanced : pool.advance look (.ofHandoff handoff) task =
      pool.start (.ofHandoff handoff) task := by rw [TcpPool.advance, spawned]
  obtain ⟨still_none, broken⟩ := start_of_too_many many no_slot (.ofHandoff handoff) task
  rw [beginsDial_of_not_dialing found no_dial, TcpPool.turn, TcpPool.poll, found]
  dsimp only
  rw [advanced]
  generalize pool.start (.ofHandoff handoff) task = result at still_none broken
  obtain ⟨after, outcome⟩ := result
  obtain rfl : outcome = _ := broken
  refine ⟨⟨after, still_none, ?_⟩, rfl⟩
  cases (RequesterView.ofHandoff handoff).cancelled <;> rfl

end TcpPool

namespace Service

variable {service : Service} {requester : Requester} {task : ServeTask} {action : Action}

/-- The pool that a client of a configuration brings along. -/
def ofConfig (config : Config) (connector : Option Connector) : Service :=
  start config.pool (.ofConfig config) connector

/-- A turn of its task drops a request without a word, and its requester sees that it was
abandoned. -/
def Abandons (service : Service) (requester : Requester) (look : TcpPool.FirstLook)
    (dialed : Dialed) : Prop :=
  service.settlement? (.serve requester.id look dialed) = some (requester.id, .dropped) ∧
    ∃ told ∈ (service.serve requester.id look dialed).requesters, told.id = requester.id ∧
      told.handoff.poll = .ready (.error .abandoned)

/-- A turn of its task answers a requester, or the task waits for a permit or for the network. -/
def Serves (service : Service) (requester : Requester) (look : TcpPool.FirstLook)
    (dialed : Dialed) : Prop :=
  (∃ settlement, service.settlement? (.serve requester.id look dialed) =
      some (requester.id, settlement) ∧ settlement.isIdle = false) ∨
    service.settlement? (.serve requester.id look dialed) = none ∧
      ∃ task ∈ service.pool.tasks, task.id = requester.id ∧
        (service.serve requester.id look dialed).pool.Waits task dialed

/-! ## Pools that are too large -/

/-- No slot was ever made, and no dial begun for anybody. -/
structure Barren (service : Service) : Prop where
  no_slot : service.pool.slots = []
  no_dial : ∀ requester ∈ service.requesters, requester.dials = 0

theorem Barren.start (limits : PoolLimits) (tls : TlsOptions) (connector : Option Connector) :
    (start limits tls connector).Barren :=
  ⟨rfl, fun _ mem => (List.not_mem_nil mem).elim⟩

theorem Releases.no_slot {pool pool' : TcpPool} (releases : Releases pool pool')
    (no_slot : pool.slots = []) : pool'.slots = [] := by
  cases releases with
  | nothing => exact no_slot
  | lease slot connection =>
      simp [TcpPool.endLease, TcpPool.release, TcpPool.changeSlot, TcpPool.updateSlot, no_slot]

theorem Barren.submit (barren : service.Barren) (runtime : Bool) (endpoint : Endpoint)
    (protocol : Http.Version) (context : Option Nat) :
    (service.submit runtime endpoint protocol context).Barren := by
  have one_more : ∀ newcomer : Requester, newcomer.dials = 0 →
      ∀ requester ∈ service.requesters ++ [newcomer], requester.dials = 0 := by
    intro newcomer none_yet requester mem
    rcases List.mem_append.mp mem with old | is_new
    · exact barren.no_dial requester old
    · rw [List.mem_singleton.mp is_new]
      exact none_yet
  obtain ⟨_, _, _, equation⟩ | ⟨_, equation⟩ :=
    service.submit_cases runtime endpoint protocol context <;> rw [equation]
  · exact ⟨barren.no_slot, one_more _ rfl⟩
  · exact ⟨barren.no_slot, one_more _ rfl⟩

theorem Barren.serve (barren : service.Barren) (valid : service.Valid)
    (many : TcpPool.permitLimit < service.pool.limits.maxPoolSize.toNat) (request : Nat)
    (look : TcpPool.FirstLook) (dialed : Dialed) :
    (service.serve request look dialed).Barren := by
  rcases valid.serve_cases request look dialed with
    same | later | ⟨requester, mem, task, task_mem, rfl, task_id⟩
  · rw [same]
    exact barren
  · rw [later]
    exact ⟨barren.no_slot, barren.no_dial⟩
  · obtain ⟨⟨after, no_slot, turn_eq⟩, no_dial⟩ := valid.sound.turn_of_too_many task_mem many
      barren.no_slot (fun _ => dialed) look (service.route requester.context) service.next
      requester.handoff
    rw [task_id] at turn_eq no_dial
    refine ⟨?_, ?_⟩
    · rw [(valid.serve_eq mem look dialed).1, turnOf, turn_eq]
      exact no_slot
    · intro told told_mem
      rcases List.mem_cons.mp ((valid.serve_requesters mem look dialed).mem_iff.mp told_mem) with
        rfl | old
      · rw [no_dial]
        exact barren.no_dial requester mem
      · exact barren.no_dial told (Identity.mem_of_mem_others old)

theorem Barren.step (barren : service.Barren) (valid : service.Valid)
    (many : TcpPool.permitLimit < service.pool.limits.maxPoolSize.toNat) (action : Action) :
    (service.step action).Barren := by
  by_cases quiet : (∀ request look dialed, action ≠ .serve request look dialed) ∧
      ∀ runtime endpoint protocol context, action ≠ .submit runtime endpoint protocol context
  · obtain ⟨silent, is_silent, requesters_eq⟩ := service.step_silent quiet.1 quiet.2
    refine ⟨?_, ?_⟩
    · by_cases no_shutdown : action ≠ .shutdown
      · exact (service.step_releases quiet.1 quiet.2 no_shutdown).no_slot barren.no_slot
      · obtain rfl := Classical.not_not.mp no_shutdown
        exact TcpPool.shutdown_no_slot barren.no_slot
    · intro told mem
      rw [requesters_eq] at mem
      obtain ⟨requester, requester_mem, rfl⟩ := List.mem_map.mp mem
      exact (is_silent requester).2.1.trans (barren.no_dial requester requester_mem)
  · cases action with
    | submit runtime endpoint protocol context =>
        exact barren.submit runtime endpoint protocol context
    | serve request look dialed => exact barren.serve valid many request look dialed
    | _ => exact absurd (by simp) quiet

theorem Barren.run (barren : service.Barren) (valid : service.Valid)
    (many : TcpPool.permitLimit < service.pool.limits.maxPoolSize.toNat)
    (actions : List Action) : (service.run actions).Barren := by
  induction actions generalizing service with
  | nil => exact barren
  | cons action rest induction =>
      refine induction (barren.step valid many action) (valid.step action) ?_
      rw [valid.step_limits]
      exact many

/-- A pool that is too large abandons everybody whose task has a turn. -/
theorem Barren.abandons (barren : service.Barren) (valid : service.Valid)
    (many : TcpPool.permitLimit < service.pool.limits.maxPoolSize.toNat)
    (mem : requester ∈ service.requesters) (held : requester.handoff.sender = .held)
    (look : TcpPool.FirstLook) (dialed : Dialed) : service.Abandons requester look dialed := by
  obtain ⟨task, task_mem, task_id⟩ := valid.attended.served requester mem held
  obtain ⟨⟨after, _, turn_eq⟩, _⟩ := valid.sound.turn_of_too_many task_mem many
    barren.no_slot (fun _ => dialed) look (service.route requester.context) service.next
    requester.handoff
  rw [task_id] at turn_eq
  have turn_eq : service.turnOf requester look dialed =
      ⟨after, requester.handoff.dropSender.1, .silent⟩ := turn_eq
  refine ⟨?_, _, (valid.serve_requesters mem look dialed).mem_iff.mpr List.mem_cons_self, rfl, ?_⟩
  · rw [(valid.serve_eq mem look dialed).2.2, turn_eq]
    rfl
  · rw [turn_eq]
    exact (valid.roster.faithful requester mem).proper.poll_of_dropped held

/-! ## Pools that are not -/

/-- A pool whose slots can have their permits serves everybody who waits. -/
theorem Valid.serves (valid : service.Valid) (waits : service.Waits requester)
    (few : service.pool.limits.maxPoolSize.toNat ≤ TcpPool.permitLimit)
    (look : TcpPool.FirstLook) (dialed : Dialed) : service.Serves requester look dialed := by
  obtain ⟨task, task_mem, task_id⟩ := valid.attended.served requester waits.mem waits.held
  obtain ⟨pool_eq, _, settlement_eq⟩ := valid.serve_eq waits.mem look dialed
  rw [Serves, settlement_eq, pool_eq]
  rcases valid.settles waits.mem task_mem task_id few look dialed with
    ⟨unsettled, _, _, task_waits⟩ | ⟨settlement, settled, settles⟩
  · exact Or.inr ⟨by rw [unsettled]; rfl, task, task_mem, task_id, task_waits⟩
  · refine Or.inl ⟨settlement, by rw [settled]; rfl, ?_⟩
    cases idle : settlement.isIdle with
    | false => rfl
    | true => exact absurd (waits.wanted.symm.trans (settles.idle idle)) Bool.false_ne_true

/-- A request that was abandoned had been given up, or its context was closed. -/
theorem Book.of_abandoned {actions : List Action} {history : List (Nat × Settlement)}
    (book : service.Book actions history) (genuine : Genuine actions)
    (mem : requester ∈ service.requesters)
    (abandoned : requester.outcome = some (.error .abandoned)) :
    GivenUp actions requester.id ∨
      ∃ context, requester.context = some context ∧ .closeContext context ∈ actions := by
  have booked := book.booked requester mem
  rcases (booked.candid genuine).outcome abandoned with cancelled | ⟨context, closed, same⟩
  · exact Or.inl (booked.given_up cancelled)
  · exact Or.inr ⟨context, same, book.closed context closed⟩

/-- Whoever is served is not abandoned. -/
theorem Serves.not_abandons {look : TcpPool.FirstLook} {dialed : Dialed}
    (serves : service.Serves requester look dialed) :
    ¬service.Abandons requester look dialed := by
  rintro ⟨dropped, _⟩
  rcases serves with ⟨settlement, settled, not_idle⟩ | ⟨unsettled, _⟩
  · rw [settled] at dropped
    obtain rfl : settlement = .dropped := congrArg Prod.snd (Option.some.inj dropped)
    cases not_idle
  · rw [unsettled] at dropped
    cases dropped

/-- Whether the pool of a valid configuration can be used.  The next turn of the task of whoever
waits abandons the request exactly if the pool may open more connections to an endpoint than a slot
can have permits.  If it may not, the first request for an endpoint opens a slot, every turn answers
its request or the task waits with reason, and nobody is told that a request was abandoned who has
not given up and whose context was not closed, as the network does not say so.  If it may, the pool
never has a slot, a dial or a connection. -/
theorem abandons_iff_too_many (config : Config) (config_valid : config.Valid)
    (connector : Option Connector) (actions : List Action) :
    let service := (ofConfig config connector).run actions
    let permits := config.pool.maxPoolSize.toNat
    (∀ requester, service.Waits requester → ∀ look dialed,
      service.Abandons requester look dialed ↔ TcpPool.permitLimit < permits) ∧
      (permits ≤ TcpPool.permitLimit →
        (∀ requester, service.Waits requester →
          (∀ look dialed, service.Serves requester look dialed) ∧
            ∀ task ∈ service.pool.tasks, task.id = requester.id → task.stage = .spawned →
              service.pool.evictIdle.slotOf? requester.endpoint = none →
                service.pool.Opens (.ofHandoff requester.handoff) task permits) ∧
          (Genuine actions → ∀ requester ∈ service.requesters,
            requester.outcome = some (.error .abandoned) →
              GivenUp actions requester.id ∨
                ∃ context, requester.context = some context ∧ .closeContext context ∈ actions)) ∧
      (TcpPool.permitLimit < permits →
        service.Barren ∧ service.connections = [] ∧
          ∀ task ∈ service.pool.tasks, task.stage = .spawned) := by
  intro service permits
  have started : (ofConfig config connector).Valid := start_valid _ _ _
  have valid : service.Valid := started.run actions
  have permits_eq : service.pool.limits.maxPoolSize.toNat = permits := by
    rw [started.run_limits actions]
    rfl
  have barren : TcpPool.permitLimit < permits → service.Barren := fun many =>
    (Barren.start _ _ _).run started many actions
  refine ⟨?_, fun few => ⟨?_, ?_⟩, fun many => ?_⟩
  · intro requester waits look dialed
    constructor
    · intro abandons
      refine Nat.not_le.mp fun few => ?_
      rw [← permits_eq] at few
      exact (valid.serves waits few look dialed).not_abandons abandons
    · intro many
      have never_opened := barren many
      rw [← permits_eq] at many
      exact never_opened.abandons valid many waits.mem waits.held look dialed
  · rw [← permits_eq] at few
    refine fun requester waits => ⟨valid.serves waits few, ?_⟩
    intro task task_mem task_id _ absent
    rw [(valid.requester_of_task waits.mem task_mem task_id).1] at absent
    have some_permit := config_valid.maxPoolSize_ne_zero
    rw [← permits_eq]
    exact valid.sound.opens few (by rw [permits_eq]; exact some_permit) waits.wanted absent
  · intro genuine requester mem abandoned
    exact ((Book.start _ _ _).run started few actions).of_abandoned genuine mem abandoned
  · have no_slot := (barren many).no_slot
    exact ⟨barren many, valid.sound.no_connection_of_no_slot no_slot,
      fun task mem => valid.sound.spawned_of_no_slot no_slot mem⟩

/-- The first request for an endpoint opens a slot that has one permit. -/
theorem pool_of_one_opens :
    let config : Config := { pool := { maxPoolSize := 1 } }
    let peer : Endpoint := { host := "127.0.0.1", port := 7009, secure := false }
    let service := (ofConfig config none).run [.submit true peer .http11 none]
    config.Valid ∧ service.pool.Opens ⟨false, false⟩ ⟨0, peer, .http11, .spawned⟩ 1 := by
  intro config peer service
  have config_valid : config.Valid := by decide
  obtain ⟨_, usable, _⟩ :=
    abandons_iff_too_many config config_valid none [.submit true peer .http11 none]
  have waits : service.Waits { id := 0, endpoint := peer, context := none } :=
    ⟨List.mem_cons_self, rfl, rfl⟩
  exact ⟨config_valid,
    ((usable (by decide)).1 _ waits).2 _ List.mem_cons_self rfl rfl rfl⟩

/-- A configuration file may ask for more connections than a slot can have permits, a client is
made from it, and the first request is abandoned although its requester still waits. -/
theorem oversized_pool_abandons :
    let text := "[pool]\nmax_pool_size = 2305843009213693952\n"
    let oversized : Config := { pool := { maxPoolSize := 2305843009213693952 } }
    (Config.parse text).toOption = some oversized ∧
      Client.create oversized none = .ok { config := oversized } ∧
      ¬∀ (config : Config) (connector : Option Connector) (actions : List Action),
        config.Valid → Genuine actions →
          ∀ requester ∈ ((ofConfig config connector).run actions).requesters,
            requester.outcome = some (.error .abandoned) →
              GivenUp actions requester.id ∨
                ∃ context, requester.context = some context ∧ .closeContext context ∈ actions := by
  intro text oversized
  refine ⟨by decide +kernel, by decide, fun claim => ?_⟩
  let peer : Endpoint := { host := "127.0.0.1", port := 7009, secure := false }
  let actions : List Action :=
    [.submit true peer .http11 none, .serve 0 .reservation .connected, .look 0]
  have excused := claim oversized none actions (by decide) (by simp [Genuine, actions])
    { id := 0, endpoint := peer, context := none, handoff := { sender := .gone }
      outcome := some (.error .abandoned) } (.head _) rfl
  simp [GivenUp, actions] at excused

end Service

end Courier
