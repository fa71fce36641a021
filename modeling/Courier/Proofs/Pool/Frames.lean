import Courier.Proofs.Pool.Service

/-!
# What an action leaves alone

Only the turn of a task moves that task, only a shutdown closes a pool and its slots, and only
turns and submissions answer anybody.
-/

namespace Courier.Service

variable {service : Service} {requester : Requester} {action : Action}

/-! ## The pool -/

/-- One lease at most has ended. -/
inductive Releases (pool : TcpPool) : TcpPool → Prop
  | nothing : Releases pool pool
  | lease (slot connection : Nat) : Releases pool (pool.endLease slot connection)

theorem Releases.follows {pool pool' : TcpPool} (releases : Releases pool pool') (id : Nat) :
    pool.Follows pool' id := by
  cases releases with
  | nothing => exact .refl pool id
  | lease slot connection => exact .endLease pool id slot connection

theorem dropConnection_releases (service : Service) (connection : Nat) :
    Releases service.pool (service.dropConnection connection).pool := by
  rw [dropConnection]
  split
  · exact .nothing
  · exact .lease _ _

theorem changeHandoff_releases (service : Service) (request : Nat)
    (change : Handoff Nat → Handoff Nat × Option (Answer Nat)) :
    Releases service.pool (service.changeHandoff request change).pool := by
  rw [changeHandoff]
  split
  · exact .nothing
  · rename_i requester _
    rcases (change requester.handoff).2 with _ | error | connection
    · exact .nothing
    · exact .nothing
    · exact dropConnection_releases (service.updateRequester request _) connection

theorem look_pool (service : Service) (id : Nat) : (service.look id).pool = service.pool := by
  rw [look]
  split
  · rfl
  · split
    · rfl
    · split <;> rfl

theorem discard_releases (service : Service) (request : Nat) :
    Releases service.pool (service.discard request).pool := by
  rw [discard]
  split
  · exact .nothing
  · split
    · exact changeHandoff_releases _ _ _
    · exact .nothing

/-- Unless a task has a turn, a request comes in or the pool is shut down, one lease at most
ends. -/
theorem step_releases (service : Service)
    (no_turn : ∀ request look dialed, action ≠ .serve request look dialed)
    (no_request : ∀ runtime endpoint protocol context,
      action ≠ .submit runtime endpoint protocol context)
    (no_shutdown : action ≠ .shutdown) :
    Releases service.pool (service.step action).pool := by
  cases action with
  | submit runtime endpoint protocol context =>
      exact absurd rfl (no_request runtime endpoint protocol context)
  | serve request look dialed => exact absurd rfl (no_turn request look dialed)
  | shutdown => exact absurd rfl no_shutdown
  | cancel request => exact service.changeHandoff_releases request _
  | forsake request => exact service.changeHandoff_releases request _
  | deliver request => exact service.changeHandoff_releases request _
  | discard request => exact service.discard_releases request
  | closeContext context => exact .nothing
  | look request =>
      rw [Service.step, look_pool]
      exact .nothing
  | dropConnection connection =>
      rw [Service.step]
      split
      · exact service.dropConnection_releases connection
      · exact .nothing

theorem submit_follows (service : Service) (runtime : Bool) (endpoint : Endpoint)
    (protocol : Http.Version) (context : Option Nat) :
    service.pool.Follows (service.submit runtime endpoint protocol context).pool service.next := by
  rw [submit, TcpPool.submit]
  by_cases closed : service.pool.closed = true
  · rw [if_pos closed]
    exact .countFailure _ _
  · rw [if_neg closed]
    cases runtime with
    | false => exact .countFailure _ _
    | true =>
        refine ⟨rfl, rfl, Nat.le_refl _, fun kept mem => Or.inl ⟨kept, mem, rfl, rfl⟩, ?_⟩
        intro task other
        constructor
        · intro mem
          rcases List.mem_append.mp mem with old | is_new
          · exact old
          · obtain rfl := List.mem_singleton.mp is_new
            exact absurd rfl other
        · exact List.mem_append_left _

theorem Valid.serve_follows (valid : service.Valid) (id : Nat) (look : TcpPool.FirstLook)
    (dialed : Dialed) : service.pool.Follows (service.serve id look dialed).pool id := by
  rcases valid.serve_cases id look dialed with
    same | later | ⟨requester, mem, task, task_mem, rfl, task_id⟩
  · rw [same]
    exact .refl _ id
  · rw [later]
    exact .refl _ id
  · have found : service.requester? requester.id = some requester :=
      Identity.find_of_mem valid.roster.distinct mem
    rw [Service.serve, found, ← task_id]
    exact (valid.turned mem task_mem task_id look dialed).follows

/-- Whom an action may move: the task that has a turn, or a new one. -/
def Action.Moves (service : Service) (action : Action) (id : Nat) : Prop :=
  id = service.next ∨ ∃ look dialed, action = .serve id look dialed

/-- Unless it shuts an open pool down, an action leaves the slots and all tasks but one as they
were. -/
theorem Valid.step_follows (valid : service.Valid)
    (no_shutdown : action = .shutdown → service.pool.closed = true) :
    ∃ id, action.Moves service id ∧ service.pool.Follows (service.step action).pool id := by
  cases action with
  | submit runtime endpoint protocol context =>
      exact ⟨_, Or.inl rfl, service.submit_follows runtime endpoint protocol context⟩
  | serve request look dialed =>
      exact ⟨request, Or.inr ⟨look, dialed, rfl⟩, valid.serve_follows request look dialed⟩
  | shutdown =>
      refine ⟨_, Or.inl rfl, ?_⟩
      rw [Service.step, Service.shutdown, TcpPool.shutdown_of_closed (no_shutdown rfl)]
      exact .refl _ _
  | _ => exact ⟨_, Or.inl rfl, (service.step_releases (by simp) (by simp) (by simp)).follows _⟩

theorem Valid.step_limits (valid : service.Valid) (action : Action) :
    (service.step action).pool.limits = service.pool.limits := by
  by_cases no_shutdown : action = .shutdown → service.pool.closed = true
  · obtain ⟨_, _, follows⟩ := valid.step_follows no_shutdown
    exact follows.limits_eq
  · obtain ⟨rfl, is_open⟩ := Classical.not_imp.mp no_shutdown
    rw [Service.step, Service.shutdown, TcpPool.shutdown_of_open (by simpa using is_open)]

/-- A closed pool stays closed. -/
theorem Valid.step_closed (valid : service.Valid) (closed : service.pool.closed = true)
    (action : Action) : (service.step action).pool.closed = true := by
  obtain ⟨_, _, follows⟩ := valid.step_follows fun _ : action = .shutdown => closed
  rw [follows.closed_eq, closed]

theorem Valid.run_limits (valid : service.Valid) (actions : List Action) :
    (service.run actions).pool.limits = service.pool.limits := by
  induction actions generalizing service with
  | nil => rfl
  | cons action rest induction =>
      exact (induction (valid.step action)).trans (valid.step_limits action)

theorem Valid.run_closed (valid : service.Valid) (closed : service.pool.closed = true)
    (actions : List Action) : (service.run actions).pool.closed = true := by
  induction actions generalizing service with
  | nil => exact closed
  | cons action rest induction =>
      exact induction (valid.step action) (valid.step_closed closed action)

/-! ## Requesters -/

/-- Changes of requesters that tell nobody anything from the pool. -/
def Silent (change : Requester → Requester) : Prop :=
  ∀ requester, (change requester).id = requester.id ∧
    (change requester).dials = requester.dials ∧ (change requester).answer = requester.answer

theorem silent_id : Silent id := fun _ => ⟨rfl, rfl, rfl⟩

theorem dropConnection_requesters (service : Service) (connection : Nat) :
    (service.dropConnection connection).requesters = service.requesters := by
  rw [dropConnection]
  split <;> rfl

theorem changeHandoff_requesters (service : Service) (id : Nat)
    (change : Handoff Nat → Handoff Nat × Option (Answer Nat)) :
    (service.changeHandoff id change).requesters =
      service.requesters.map fun requester =>
        if requester.id == id then { requester with handoff := (change requester.handoff).1 }
        else requester := by
  rw [changeHandoff]
  split
  · rename_i absent
    refine ((List.map_congr_left fun requester mem => ?_).trans (List.map_id _)).symm
    exact if_neg (List.find?_eq_none.mp absent requester mem)
  · rename_i requester _
    rcases (change requester.handoff).2 with _ | error | connection
    · rfl
    · rfl
    · exact dropConnection_requesters _ connection

theorem changeHandoff_silent (service : Service) (id : Nat)
    (change : Handoff Nat → Handoff Nat × Option (Answer Nat)) :
    ∃ silent, Silent silent ∧
      (service.changeHandoff id change).requesters = service.requesters.map silent := by
  refine ⟨_, ?_, service.changeHandoff_requesters id change⟩
  intro requester
  dsimp only
  split <;> exact ⟨rfl, rfl, rfl⟩

theorem look_silent (service : Service) (id : Nat) :
    ∃ silent, Silent silent ∧ (service.look id).requesters = service.requesters.map silent := by
  have unchanged : ∃ silent, Silent silent ∧ service.requesters = service.requesters.map silent :=
    ⟨_, silent_id, (List.map_id _).symm⟩
  rw [look]
  split
  · exact unchanged
  · split
    · exact unchanged
    · split
      · exact unchanged
      · refine ⟨_, ?_, rfl⟩
        intro requester
        dsimp only
        split <;> exact ⟨rfl, rfl, rfl⟩

/-- Unless a task has a turn or a request comes in, the pool tells nobody anything. -/
theorem step_silent (service : Service)
    (no_turn : ∀ request look dialed, action ≠ .serve request look dialed)
    (no_request : ∀ runtime endpoint protocol context,
      action ≠ .submit runtime endpoint protocol context) :
    ∃ silent, Silent silent ∧
      (service.step action).requesters = service.requesters.map silent := by
  have unchanged : ∃ silent, Silent silent ∧ service.requesters = service.requesters.map silent :=
    ⟨_, silent_id, (List.map_id _).symm⟩
  cases action with
  | submit runtime endpoint protocol context =>
      exact absurd rfl (no_request runtime endpoint protocol context)
  | serve request look dialed => exact absurd rfl (no_turn request look dialed)
  | cancel request => exact service.changeHandoff_silent request _
  | forsake request => exact service.changeHandoff_silent request _
  | deliver request => exact service.changeHandoff_silent request _
  | look request => exact service.look_silent request
  | discard request =>
      rw [Service.step, discard]
      split
      · exact unchanged
      · split
        · exact service.changeHandoff_silent request _
        · exact unchanged
  | dropConnection connection =>
      rw [Service.step]
      split
      · rw [dropConnection_requesters]
        exact unchanged
      · exact unchanged
  | closeContext context => exact unchanged
  | shutdown => exact unchanged

/-- The requesters after a turn of a task. -/
theorem Valid.serve_requesters (valid : service.Valid) (mem : requester ∈ service.requesters)
    (look : TcpPool.FirstLook) (dialed : Dialed) :
    (service.serve requester.id look dialed).requesters.Perm
      (requester.afterTurn service.next (service.turnOf requester look dialed)
          (service.pool.beginsDial look (.ofHandoff requester.handoff) requester.id) ::
        service.others requester.id) := by
  have found : service.requester? requester.id = some requester :=
    Identity.find_of_mem valid.roster.distinct mem
  rw [Service.serve, found]
  exact valid.updated_perm mem _

end Courier.Service
