import Courier.Proofs.Pool.Requests

/-!
# Every request is settled once

The history of a pool in service names every request once at most, and the pool has counted what
the history says.  A request that is not in the history waits for a permit or for the network.
-/

namespace Courier

open Settlement (ofRequest)

variable {history : List (Nat × Settlement)} {id : Nat} {settlement : Settlement}

/-! ## Histories -/

theorem Settlement.ofRequest_append (history later : List (Nat × Settlement)) (id : Nat) :
    ofRequest (history ++ later) id = ofRequest history id ++ ofRequest later id := by
  rw [ofRequest, List.filter_append, List.map_append]
  rfl

theorem Settlement.ofRequest_self (history : List (Nat × Settlement)) (id : Nat)
    (settlement : Settlement) :
    ofRequest (history ++ [(id, settlement)]) id = ofRequest history id ++ [settlement] := by
  simp [ofRequest]

theorem Settlement.ofRequest_other {other : Nat} (different : other ≠ id) :
    ofRequest (history ++ [(id, settlement)]) other = ofRequest history other := by
  rw [ofRequest_append, ofRequest, ofRequest,
    List.filter_cons_of_neg (by simpa using different.symm)]
  exact List.append_nil _

theorem Settlement.ofRequest_of_unknown (unknown : ∀ entry ∈ history, entry.1 ≠ id) :
    ofRequest history id = [] := by
  rw [ofRequest, List.filter_eq_nil_iff.mpr fun entry mem => by simpa using unknown entry mem]
  rfl

/-- A settlement is counted once, or not at all if nothing came of the request. -/
theorem Settlement.counted (settlement : Settlement) :
    settlement.isDelivery.toNat + settlement.isFailure.toNat =
      if settlement.isIdle then 0 else 1 := by
  cases settlement with
  | offered connection accepted => cases accepted <;> rfl
  | reported error accepted => rfl
  | dropped => rfl

theorem countP_append_singleton {α : Type} (counts : α → Bool) (list : List α) (member : α) :
    (list ++ [member]).countP counts = list.countP counts + (counts member).toNat := by
  rw [List.countP_append, List.countP_singleton]
  cases counts member <;> rfl

namespace Service

variable {service : Service} {action : Action} {actions : List Action} {requester : Requester}

/-! ## What the pool has counted -/

/-- What a pool has counted, and the contexts that were closed. -/
def record (service : Service) : (Nat × Nat) × List Nat :=
  (service.pool.counts, service.closedContexts)

theorem dropConnection_record (service : Service) (connection : Nat) :
    (service.dropConnection connection).record = service.record := by
  rw [dropConnection]
  split <;> rfl

theorem changeHandoff_record (service : Service) (id : Nat)
    (change : Handoff Nat → Handoff Nat × Option (Answer Nat)) :
    (service.changeHandoff id change).record = service.record := by
  rw [changeHandoff]
  split
  · rfl
  · rename_i requester _
    rcases (change requester.handoff).2 with _ | error | connection
    · rfl
    · rfl
    · exact dropConnection_record _ connection

theorem look_record (service : Service) (id : Nat) : (service.look id).record = service.record := by
  rw [look]
  split
  · rfl
  · split
    · rfl
    · split <;> rfl

theorem discard_record (service : Service) (id : Nat) :
    (service.discard id).record = service.record := by
  rw [discard]
  split
  · rfl
  · split
    · exact changeHandoff_record _ _ _
    · rfl

theorem shutdown_record (service : Service) : service.shutdown.record = service.record := by
  rw [shutdown, record]
  cases closed : service.pool.closed with
  | true => rw [TcpPool.shutdown_of_closed closed]; rfl
  | false => rw [TcpPool.shutdown_of_open closed]; rfl

/-- Unless a task has a turn or a request comes in, nothing is counted and nothing settled. -/
theorem step_record (service : Service)
    (no_turn : ∀ request look dialed, action ≠ .serve request look dialed)
    (no_request : ∀ runtime endpoint protocol context,
      action ≠ .submit runtime endpoint protocol context) :
    (service.step action).pool.counts = service.pool.counts ∧
      service.settlement? action = none ∧ action.isSubmission = false ∧
      ((service.step action).closedContexts = service.closedContexts ∨
        ∃ context, action = .closeContext context ∧
          (service.step action).closedContexts = context :: service.closedContexts) := by
  have unchanged : ∀ after : Service, after.record = service.record →
      after.pool.counts = service.pool.counts ∧
        after.closedContexts = service.closedContexts :=
    fun _ same => ⟨congrArg Prod.fst same, congrArg Prod.snd same⟩
  cases action with
  | submit runtime endpoint protocol context =>
      exact absurd rfl (no_request runtime endpoint protocol context)
  | serve request look dialed => exact absurd rfl (no_turn request look dialed)
  | cancel request =>
      obtain ⟨counts, closed⟩ := unchanged _ (service.changeHandoff_record request _)
      exact ⟨counts, rfl, rfl, Or.inl closed⟩
  | forsake request =>
      obtain ⟨counts, closed⟩ := unchanged _ (service.changeHandoff_record request _)
      exact ⟨counts, rfl, rfl, Or.inl closed⟩
  | deliver request =>
      obtain ⟨counts, closed⟩ := unchanged _ (service.changeHandoff_record request _)
      exact ⟨counts, rfl, rfl, Or.inl closed⟩
  | look request =>
      obtain ⟨counts, closed⟩ := unchanged _ (service.look_record request)
      exact ⟨counts, rfl, rfl, Or.inl closed⟩
  | discard request =>
      obtain ⟨counts, closed⟩ := unchanged _ (service.discard_record request)
      exact ⟨counts, rfl, rfl, Or.inl closed⟩
  | dropConnection connection =>
      rw [Service.step]
      split
      · obtain ⟨counts, closed⟩ := unchanged _ (service.dropConnection_record connection)
        exact ⟨counts, rfl, rfl, Or.inl closed⟩
      · exact ⟨rfl, rfl, rfl, Or.inl rfl⟩
  | closeContext context => exact ⟨rfl, rfl, rfl, Or.inr ⟨context, rfl, rfl⟩⟩
  | shutdown =>
      obtain ⟨counts, closed⟩ := unchanged _ service.shutdown_record
      exact ⟨counts, rfl, rfl, Or.inl closed⟩

/-! ## Settling a request -/

/-- After some actions, the pool has dealt with every requester as the history says. -/
structure Book (service : Service) (actions : List Action) (history : List (Nat × Settlement)) :
    Prop where
  booked : ∀ requester ∈ service.requesters,
    requester.Booked service.closedContexts actions (ofRequest history requester.id)
  known : ∀ entry ∈ history, ∃ requester ∈ service.requesters, requester.id = entry.1
  established_eq : service.pool.established = history.countP (·.2.isDelivery)
  failed_eq : service.pool.failed = history.countP (·.2.isFailure)
  submitted : service.requesters.length = actions.countP Action.isSubmission
  closed : ∀ context ∈ service.closedContexts, .closeContext context ∈ actions

theorem Book.start (limits : PoolLimits) (tls : TlsOptions) (connector : Option Connector) :
    (start limits tls connector).Book [] [] :=
  ⟨fun _ mem => (List.not_mem_nil mem).elim, fun _ mem => (List.not_mem_nil mem).elim, rfl, rfl,
    rfl, fun _ mem => (List.not_mem_nil mem).elim⟩

theorem Book.quiet (book : service.Book actions history) (valid : service.Valid)
    (no_turn : ∀ request look dialed, action ≠ .serve request look dialed)
    (no_request : ∀ runtime endpoint protocol context,
      action ≠ .submit runtime endpoint protocol context) :
    (service.step action).Book (actions ++ [action])
      (history ++ (service.settlement? action).toList) := by
  obtain ⟨counts, unsettled, no_submission, contexts⟩ := service.step_record no_turn no_request
  obtain ⟨silent, is_silent, requesters_eq⟩ := service.step_silent no_turn no_request
  have grows : ∀ context ∈ service.closedContexts,
      context ∈ (service.step action).closedContexts := by
    intro context mem
    rcases contexts with same | ⟨_, _, more⟩
    · rw [same]
      exact mem
    · rw [more]
      exact List.mem_cons_of_mem _ mem
  rw [unsettled, Option.toList_none, List.append_nil]
  refine ⟨?_, ?_, ?_, ?_, ?_, ?_⟩
  · intro told mem
    obtain ⟨requester, requester_mem, shift⟩ := valid.step_shift no_turn no_request mem
    have proper := (valid.roster.faithful requester requester_mem).proper
    rw [shift.keeps.id_eq]
    exact ((book.booked requester requester_mem).shift proper shift).grow grows
  · intro entry mem
    obtain ⟨requester, requester_mem, same_id⟩ := book.known entry mem
    rw [requesters_eq]
    exact ⟨silent requester, List.mem_map.mpr ⟨requester, requester_mem, rfl⟩,
      (is_silent requester).1.trans same_id⟩
  · exact (congrArg Prod.fst counts).trans book.established_eq
  · exact (congrArg Prod.snd counts).trans book.failed_eq
  · rw [requesters_eq, List.length_map, book.submitted, countP_append_singleton, no_submission]
    rfl
  · intro context mem
    rcases contexts with same | ⟨closing, rfl, more⟩
    · rw [same] at mem
      exact List.mem_append_left _ (book.closed context mem)
    · rw [more] at mem
      rcases List.mem_cons.mp mem with rfl | old
      · exact List.mem_append_right _ List.mem_cons_self
      · exact List.mem_append_left _ (book.closed context old)

/-- A new request is settled at once, or a task is to serve it. -/
theorem submit_cases (service : Service) (runtime : Bool) (endpoint : Endpoint)
    (protocol : Http.Version) (context : Option Nat) :
    (∃ error, error ≠ .abandoned ∧
        service.settlement? (.submit runtime endpoint protocol context) =
          some (service.next, .reported error
            (({} : Handoff Nat).resolve (service.route context) (.error error)).2.accepted) ∧
        service.submit runtime endpoint protocol context =
          { service with
            pool := service.pool.countFailure
            requesters := service.requesters ++
              [{ id := service.next, endpoint, context
                 handoff :=
                  (({} : Handoff Nat).resolve (service.route context) (.error error)).1
                 answer := some (.error error) }]
            next := service.next + 1 }) ∨
      (service.settlement? (.submit runtime endpoint protocol context) = none ∧
        service.submit runtime endpoint protocol context =
          { service with
            pool := { service.pool with
              tasks := service.pool.tasks ++ [{ id := service.next, endpoint, protocol }] }
            requesters := service.requesters ++ [{ id := service.next, endpoint, context }]
            next := service.next + 1 }) := by
  rw [submit, settlement?, TcpPool.submit]
  by_cases closed : service.pool.closed = true
  · rw [if_pos closed]
    exact Or.inl ⟨.poolClosed, by simp, rfl, rfl⟩
  · rw [if_neg closed]
    cases runtime with
    | true => exact Or.inr ⟨rfl, rfl⟩
    | false => exact Or.inl ⟨.io endpoint.text .noRuntime, by simp, rfl, rfl⟩

theorem Book.submit (book : service.Book actions history) (valid : service.Valid)
    (runtime : Bool) (endpoint : Endpoint) (protocol : Http.Version) (context : Option Nat) :
    (service.submit runtime endpoint protocol context).Book
      (actions ++ [.submit runtime endpoint protocol context])
      (history ++ (service.settlement? (.submit runtime endpoint protocol context)).toList) := by
  have new_id : ∀ requester ∈ service.requesters, requester.id ≠ service.next :=
    fun requester mem => Nat.ne_of_lt (valid.roster.below requester mem)
  have unknown : ofRequest history service.next = [] := by
    refine Settlement.ofRequest_of_unknown fun entry mem => ?_
    obtain ⟨requester, requester_mem, same_id⟩ := book.known entry mem
    rw [← same_id]
    exact new_id requester requester_mem
  have one_more : ∀ requester : Requester, (service.requesters ++ [requester]).length =
      (actions ++ [Action.submit runtime endpoint protocol context]).countP
        Action.isSubmission := by
    intro requester
    rw [List.length_append, book.submitted, countP_append_singleton]
    rfl
  have known : ∀ (requester : Requester), requester.id = service.next → ∀ id,
      (id = service.next ∨ ∃ entry ∈ history, entry.1 = id) →
        ∃ other ∈ service.requesters ++ [requester], other.id = id := by
    rintro requester requester_id id (rfl | ⟨entry, mem, rfl⟩)
    · exact ⟨requester, List.mem_append_right _ List.mem_cons_self, requester_id⟩
    · obtain ⟨other, other_mem, same_id⟩ := book.known entry mem
      exact ⟨other, List.mem_append_left _ other_mem, same_id⟩
  have closed : ∀ context' ∈ service.closedContexts,
      .closeContext context' ∈ actions ++ [.submit runtime endpoint protocol context] :=
    fun context' mem => List.mem_append_left _ (book.closed context' mem)
  obtain ⟨error, told, settled, equation⟩ | ⟨unsettled, equation⟩ :=
    service.submit_cases runtime endpoint protocol context
  · rw [settled, equation, Option.toList_some]
    refine ⟨?_, ?_, ?_, ?_, one_more _, closed⟩
    · intro requester mem
      rcases List.mem_append.mp mem with old | is_new
      · rw [Settlement.ofRequest_other (new_id requester old)]
        exact (book.booked requester old).later _
      · obtain rfl := List.mem_singleton.mp is_new
        rw [Settlement.ofRequest_self, unknown]
        exact .refuse service.next endpoint context told
    · intro entry mem
      refine known _ rfl entry.1 ?_
      rcases List.mem_append.mp mem with old | is_new
      · exact Or.inr ⟨entry, old, rfl⟩
      · exact Or.inl (congrArg Prod.fst (List.mem_singleton.mp is_new))
    · rw [countP_append_singleton]
      exact book.established_eq
    · rw [countP_append_singleton]
      exact congrArg (· + 1) book.failed_eq
  · rw [unsettled, equation, Option.toList_none, List.append_nil]
    refine ⟨?_, fun entry mem => known _ rfl entry.1 (Or.inr ⟨entry, mem, rfl⟩),
      book.established_eq, book.failed_eq, one_more _, closed⟩
    intro requester mem
    rcases List.mem_append.mp mem with old | is_new
    · exact (book.booked requester old).later _
    · obtain rfl := List.mem_singleton.mp is_new
      rw [unknown]
      exact .spawn service.next endpoint context

/-- The task of a requester has a turn: the request is left open with reason, or settled. -/
theorem Valid.settles (valid : service.Valid) (mem : requester ∈ service.requesters)
    {task : ServeTask} (task_mem : task ∈ service.pool.tasks) (task_id : task.id = requester.id)
    (few : service.pool.limits.maxPoolSize.toNat ≤ TcpPool.permitLimit)
    (look : TcpPool.FirstLook) (dialed : Dialed) :
    let turn := service.turnOf requester look dialed
    (turn.result.settlement? service.next = none ∧ turn.handoff = requester.handoff ∧
        turn.pool.counts = service.pool.counts ∧ turn.pool.Waits task dialed) ∨
      ∃ settlement, turn.result.settlement? service.next = some settlement ∧
        service.pool.Settles requester.handoff (service.route requester.context) dialed turn
          settlement := by
  rw [turnOf, ← task_id]
  exact valid.sound.settles task_mem few (valid.roster.faithful requester mem).proper
    (valid.requester_of_task mem task_mem task_id).2 look dialed _ service.next

theorem Valid.serve_eq (valid : service.Valid) (mem : requester ∈ service.requesters)
    (look : TcpPool.FirstLook) (dialed : Dialed) :
    (service.serve requester.id look dialed).pool = (service.turnOf requester look dialed).pool ∧
      (service.serve requester.id look dialed).closedContexts = service.closedContexts ∧
      service.settlement? (.serve requester.id look dialed) =
        ((service.turnOf requester look dialed).result.settlement? service.next).map
          (requester.id, ·) := by
  have found : service.requester? requester.id = some requester :=
    Identity.find_of_mem valid.roster.distinct mem
  rw [Service.serve, settlement?, found]
  exact ⟨rfl, rfl, rfl⟩

theorem Book.later (book : service.Book actions history)
    (no_submission : action.isSubmission = false) :
    service.Book (actions ++ [action]) history where
  booked := fun requester mem => (book.booked requester mem).later action
  known := book.known
  established_eq := book.established_eq
  failed_eq := book.failed_eq
  submitted := by
    rw [book.submitted, countP_append_singleton, no_submission]
    rfl
  closed := fun context mem => List.mem_append_left _ (book.closed context mem)

theorem Book.serve_task (book : service.Book actions history) (valid : service.Valid)
    (few : service.pool.limits.maxPoolSize.toNat ≤ TcpPool.permitLimit)
    (mem : requester ∈ service.requesters) {task : ServeTask}
    (task_mem : task ∈ service.pool.tasks) (task_id : task.id = requester.id)
    (look : TcpPool.FirstLook) (dialed : Dialed) :
    (service.serve requester.id look dialed).Book
      (actions ++ [.serve requester.id look dialed])
      (history ++ (service.settlement? (.serve requester.id look dialed)).toList) := by
  have served_perm := valid.serve_requesters mem look dialed
  have settles := valid.settles mem task_mem task_id few look dialed
  have held := (valid.requester_of_task mem task_mem task_id).2
  have faithful := valid.roster.faithful requester mem
  have booked := book.booked requester mem
  obtain ⟨pool_eq, contexts_eq, settlement_eq⟩ := valid.serve_eq mem look dialed
  have submitted : (service.serve requester.id look dialed).requesters.length =
      (actions ++ [Action.serve requester.id look dialed]).countP Action.isSubmission := by
    have same_length : (service.serve requester.id look dialed).requesters.length =
        service.requesters.length :=
      served_perm.length_eq.trans (valid.requesters_perm mem).length_eq.symm
    rw [same_length, book.submitted, countP_append_singleton]
    rfl
  have still_known : ∀ id, (∃ other ∈ service.requesters, other.id = id) →
      ∃ other ∈ (service.serve requester.id look dialed).requesters, other.id = id := by
    rintro id ⟨other, other_mem, rfl⟩
    rcases List.mem_cons.mp ((valid.requesters_perm mem).mem_iff.mp other_mem) with rfl | old
    · exact ⟨_, served_perm.mem_iff.mpr List.mem_cons_self, rfl⟩
    · exact ⟨other, served_perm.mem_iff.mpr (List.mem_cons_of_mem _ old), rfl⟩
  have closed : ∀ context ∈ (service.serve requester.id look dialed).closedContexts,
      .closeContext context ∈ actions ++ [.serve requester.id look dialed] := by
    rw [contexts_eq]
    exact fun context context_mem => List.mem_append_left _ (book.closed context context_mem)
  rcases settles with ⟨unsettled, same_handoff, counts_eq, _⟩ | ⟨settlement, settled, settles⟩
  · rw [settlement_eq, unsettled, Option.map_none, Option.toList_none, List.append_nil]
    refine ⟨?_, fun entry entry_mem => still_known _ (book.known entry entry_mem), ?_, ?_,
      submitted, closed⟩
    · intro told told_mem
      rw [contexts_eq]
      rcases List.mem_cons.mp (served_perm.mem_iff.mp told_mem) with rfl | old
      · exact booked.wait same_handoff unsettled _ _
      · exact (book.booked told (Identity.mem_of_mem_others old)).later _
    · rw [pool_eq]
      exact (congrArg Prod.fst counts_eq).trans book.established_eq
    · rw [pool_eq]
      exact (congrArg Prod.snd counts_eq).trans book.failed_eq
  · have open_before : ofRequest history requester.id = [] := booked.dealt.eq_nil held
    rw [settlement_eq, settled, Option.map_some, Option.toList_some]
    refine ⟨?_, ?_, ?_, ?_, submitted, closed⟩
    · intro told told_mem
      rw [contexts_eq]
      rcases List.mem_cons.mp (served_perm.mem_iff.mp told_mem) with rfl | old
      · have told_id : ∀ begun turn, (requester.afterTurn service.next turn begun).id =
            requester.id := fun _ _ => rfl
        rw [told_id, Settlement.ofRequest_self, open_before]
        exact booked.settle settles settled (faithful.unanswered held) _ look
      · rw [Settlement.ofRequest_other (Identity.ne_of_mem_others old)]
        exact (book.booked told (Identity.mem_of_mem_others old)).later _
    · intro entry entry_mem
      refine still_known _ ?_
      rcases List.mem_append.mp entry_mem with old | is_new
      · exact book.known entry old
      · exact ⟨requester, mem, (congrArg Prod.fst (List.mem_singleton.mp is_new)).symm⟩
    · rw [pool_eq, settles.established_eq, book.established_eq, countP_append_singleton]
    · rw [pool_eq, settles.failed_eq, book.failed_eq, countP_append_singleton]

theorem Book.serve (book : service.Book actions history) (valid : service.Valid)
    (few : service.pool.limits.maxPoolSize.toNat ≤ TcpPool.permitLimit) (request : Nat)
    (look : TcpPool.FirstLook) (dialed : Dialed) :
    (service.serve request look dialed).Book (actions ++ [.serve request look dialed])
      (history ++ (service.settlement? (.serve request look dialed)).toList) := by
  have later : service.Book (actions ++ [.serve request look dialed]) history := book.later rfl
  cases found : service.requester? request with
  | none =>
      have unsettled : service.settlement? (.serve request look dialed) = none := by
        rw [settlement?, found]
        rfl
      rw [unsettled, Option.toList_none, List.append_nil, Service.serve, found]
      exact later
  | some requester =>
      obtain ⟨mem, rfl⟩ := mem_of_requester found
      cases task_found : service.pool.task? requester.id with
      | none =>
          have unsettled :
              service.settlement? (.serve requester.id look dialed) = none := by
            rw [(valid.serve_eq mem look dialed).2.2, turnOf, TcpPool.turn_of_no_task task_found]
            rfl
          rw [unsettled, Option.toList_none, List.append_nil,
            valid.serve_of_no_task mem task_found]
          exact ⟨later.booked, later.known, later.established_eq, later.failed_eq,
            later.submitted, later.closed⟩
      | some task =>
          obtain ⟨task_mem, task_id⟩ := Identity.mem_of_find task_found
          exact book.serve_task valid few mem task_mem task_id look dialed

theorem Book.step (book : service.Book actions history) (valid : service.Valid)
    (few : service.pool.limits.maxPoolSize.toNat ≤ TcpPool.permitLimit) (action : Action) :
    (service.step action).Book (actions ++ [action])
      (history ++ (service.settlement? action).toList) := by
  by_cases quiet : (∀ request look dialed, action ≠ .serve request look dialed) ∧
      ∀ runtime endpoint protocol context, action ≠ .submit runtime endpoint protocol context
  · exact book.quiet valid quiet.1 quiet.2
  · cases action with
    | submit runtime endpoint protocol context =>
        exact book.submit valid runtime endpoint protocol context
    | serve request look dialed => exact book.serve valid few request look dialed
    | _ => exact absurd (by simp) quiet

theorem Book.run (book : service.Book actions history) (valid : service.Valid)
    (few : service.pool.limits.maxPoolSize.toNat ≤ TcpPool.permitLimit) (later : List Action) :
    (service.run later).Book (actions ++ later) (history ++ service.settlements later) := by
  induction later generalizing service actions history with
  | nil =>
      rw [settlements, List.append_nil, List.append_nil]
      exact book
  | cons action rest induction =>
      have stepped := book.step valid few action
      have still_few : (service.step action).pool.limits.maxPoolSize.toNat ≤
          TcpPool.permitLimit := by
        rw [valid.step_limits]
        exact few
      have done := induction stepped (valid.step action) still_few
      rw [List.append_assoc, List.append_assoc] at done
      exact done

/-! ## Every run -/

end Service

end Courier
