import Courier.Pool.Service
import Courier.Proofs.Handoff
import Courier.Proofs.Identity

/-!
# Everybody who asked for a connection

Requesters are told apart by their identities.  What one of them can still get exists and nobody
else can get it, and a task serves exactly those whom the pool has not answered.  Neither depends
on the order of the requesters, so a change of one of them is a change of the head.
-/

namespace Courier

variable {requester requester' : Requester} {requesters requesters' others : List Requester}
  {tasks tasks' : List ServeTask} {task : ServeTask} {next next' : Nat} {ids ids' : List Nat}
  {connection : Nat}

/-- The connections that somebody can still get. -/
def Requester.carried (requesters : List Requester) : List Nat :=
  requesters.filterMap (·.handoff.connection?)

theorem Requester.carried_cons_of_none (nothing : requester.handoff.connection? = none) :
    carried (requester :: others) = carried others := by
  rw [carried, List.filterMap_cons, nothing]
  rfl

theorem Requester.carried_cons_of_some (carries : requester.handoff.connection? = some connection) :
    carried (requester :: others) = connection :: carried others := by
  rw [carried, List.filterMap_cons, carries]
  rfl

theorem Requester.mem_carried :
    connection ∈ carried requesters ↔
      ∃ requester ∈ requesters, requester.handoff.connection? = some connection :=
  List.mem_filterMap

/-- What a requester can get or has got is what the pool has answered. -/
structure Requester.Faithful (requester : Requester) : Prop where
  proper : requester.handoff.Proper
  unanswered : requester.handoff.sender = .held → requester.answer = none
  carried_answer : ∀ connection, requester.handoff.connection? = some connection →
    requester.answer = some (.ok connection)
  outcome_answer : ∀ connection, requester.outcome = some (.ok connection) →
    requester.answer = some (.ok connection)

/-- A requester that gets nothing is told no lie. -/
theorem Requester.faithful_of_nothing (proper : requester.handoff.Proper)
    (unanswered : requester.handoff.sender = .held → requester.answer = none)
    (nothing : requester.handoff.connection? = none) (no_outcome : requester.outcome = none) :
    requester.Faithful := by
  refine ⟨proper, unanswered, ?_, ?_⟩
  · intro connection carries
    rw [nothing] at carries
    cases carries
  · intro connection outcome_eq
    rw [no_outcome] at outcome_eq
    cases outcome_eq

/-- Requesters are told apart, and what they carry are different connections that exist. -/
structure Roster (requesters : List Requester) (next : Nat) (ids : List Nat) : Prop where
  distinct : (requesters.map (·.id)).Nodup
  below : ∀ requester ∈ requesters, requester.id < next
  faithful : ∀ requester ∈ requesters, requester.Faithful
  carried_distinct : (Requester.carried requesters).Nodup
  carried_exists : ∀ requester ∈ requesters, ∀ connection,
    requester.handoff.connection? = some connection → connection ∈ ids

/-- A task serves exactly those requesters whom the pool has not answered. -/
structure Attended (requesters : List Requester) (tasks : List ServeTask) : Prop where
  awaited : ∀ task ∈ tasks, ∃ requester ∈ requesters, requester.id = task.id ∧
    requester.endpoint = task.endpoint ∧ requester.handoff.sender = .held
  served : ∀ requester ∈ requesters, requester.handoff.sender = .held →
    ∃ task ∈ tasks, task.id = requester.id

namespace Roster

theorem empty (next : Nat) (ids : List Nat) : Roster [] next ids :=
  ⟨.nil, fun _ mem => (List.not_mem_nil mem).elim, fun _ mem => (List.not_mem_nil mem).elim, .nil,
    fun _ mem => (List.not_mem_nil mem).elim⟩

theorem perm (roster : Roster requesters next ids) (requesters_perm : requesters.Perm requesters') :
    Roster requesters' next ids where
  distinct := (requesters_perm.map _).nodup_iff.mp roster.distinct
  below := fun requester mem => roster.below requester (requesters_perm.mem_iff.mpr mem)
  faithful := fun requester mem => roster.faithful requester (requesters_perm.mem_iff.mpr mem)
  carried_distinct := (requesters_perm.filterMap _).nodup_iff.mp roster.carried_distinct
  carried_exists := fun requester mem =>
    roster.carried_exists requester (requesters_perm.mem_iff.mpr mem)

theorem mono (roster : Roster requesters next ids) (next_le : next ≤ next')
    (ids_sub : ∀ id ∈ ids, id ∈ ids') : Roster requesters next' ids' where
  distinct := roster.distinct
  below := fun requester mem => Nat.lt_of_lt_of_le (roster.below requester mem) next_le
  faithful := roster.faithful
  carried_distinct := roster.carried_distinct
  carried_exists := fun requester mem connection carried =>
    ids_sub connection (roster.carried_exists requester mem connection carried)

theorem apart (roster : Roster (requester :: others) next ids) :
    ∀ other ∈ others, other.id ≠ requester.id := by
  intro other mem same
  have distinct := roster.distinct
  rw [List.map_cons, List.nodup_cons] at distinct
  exact distinct.1 (List.mem_map.mpr ⟨other, mem, same⟩)

/-- Nobody else can get what a requester can get. -/
theorem carried_by_one (roster : Roster (requester :: others) next ids)
    (carried : requester.handoff.connection? = some connection) :
    ∀ other ∈ others, other.handoff.connection? ≠ some connection := by
  intro other mem also
  have distinct := roster.carried_distinct
  rw [Requester.carried_cons_of_some carried, List.nodup_cons] at distinct
  exact distinct.1 (Requester.mem_carried.mpr ⟨other, mem, also⟩)

/-- One requester changes; what it can get now exists and nobody else can get it. -/
theorem exchange (roster : Roster (requester :: others) next ids)
    (same_id : requester'.id = requester.id) (faithful' : requester'.Faithful)
    (carried' : ∀ connection, requester'.handoff.connection? = some connection →
      connection ∈ ids ∧
        ∀ other ∈ others, other.handoff.connection? ≠ some connection) :
    Roster (requester' :: others) next ids where
  distinct := by
    have distinct := roster.distinct
    rw [List.map_cons] at distinct ⊢
    rw [same_id]
    exact distinct
  below := by
    intro other mem
    rcases List.mem_cons.mp mem with rfl | old
    · rw [same_id]
      exact roster.below requester List.mem_cons_self
    · exact roster.below other (List.mem_cons_of_mem _ old)
  faithful := by
    intro other mem
    rcases List.mem_cons.mp mem with rfl | old
    · exact faithful'
    · exact roster.faithful other (List.mem_cons_of_mem _ old)
  carried_distinct := by
    have others_distinct : (Requester.carried others).Nodup :=
      roster.carried_distinct.sublist ((List.sublist_cons_self _ _).filterMap _)
    cases carried : requester'.handoff.connection? with
    | none =>
        rw [Requester.carried_cons_of_none carried]
        exact others_distinct
    | some connection =>
        rw [Requester.carried_cons_of_some carried, List.nodup_cons]
        refine ⟨?_, others_distinct⟩
        intro also
        obtain ⟨other, mem, same⟩ := Requester.mem_carried.mp also
        exact (carried' connection carried).2 other mem same
  carried_exists := by
    intro other mem connection carried
    rcases List.mem_cons.mp mem with rfl | old
    · exact (carried' connection carried).1
    · exact roster.carried_exists other (List.mem_cons_of_mem _ old) connection carried

/-- A new requester can get nothing yet. -/
theorem enter (roster : Roster requesters next ids)
    (fresh : ∀ other ∈ requesters, other.id ≠ requester.id) (below : requester.id < next)
    (faithful : requester.Faithful) (nothing : requester.handoff.connection? = none) :
    Roster (requester :: requesters) next ids where
  distinct := by
    rw [List.map_cons, List.nodup_cons]
    refine ⟨?_, roster.distinct⟩
    intro used
    obtain ⟨other, mem, same⟩ := List.mem_map.mp used
    exact fresh other mem same
  below := by
    intro other mem
    rcases List.mem_cons.mp mem with rfl | old
    · exact below
    · exact roster.below other old
  faithful := by
    intro other mem
    rcases List.mem_cons.mp mem with rfl | old
    · exact faithful
    · exact roster.faithful other old
  carried_distinct := by
    rw [Requester.carried_cons_of_none nothing]
    exact roster.carried_distinct
  carried_exists := by
    intro other mem connection carried
    rcases List.mem_cons.mp mem with rfl | old
    · rw [nothing] at carried
      cases carried
    · exact roster.carried_exists other old connection carried

/-- A connection that nobody can get any more may go. -/
theorem drop (roster : Roster requesters next ids)
    (uncarried : ∀ requester ∈ requesters, requester.handoff.connection? ≠ some connection)
    (others_exist : ∀ id ∈ ids, id ≠ connection → id ∈ ids') : Roster requesters next ids' where
  distinct := roster.distinct
  below := roster.below
  faithful := roster.faithful
  carried_distinct := roster.carried_distinct
  carried_exists := by
    intro requester mem other carried
    refine others_exist other (roster.carried_exists requester mem other carried) ?_
    rintro rfl
    exact uncarried requester mem carried

end Roster

namespace Attended

theorem perm (attended : Attended requesters tasks)
    (requesters_perm : requesters.Perm requesters') (tasks_perm : tasks.Perm tasks') :
    Attended requesters' tasks' where
  awaited := by
    intro task mem
    obtain ⟨requester, requester_mem, facts⟩ :=
      attended.awaited task (tasks_perm.mem_iff.mpr mem)
    exact ⟨requester, requesters_perm.mem_iff.mp requester_mem, facts⟩
  served := by
    intro requester mem held
    obtain ⟨task, task_mem, same_id⟩ :=
      attended.served requester (requesters_perm.mem_iff.mpr mem) held
    exact ⟨task, tasks_perm.mem_iff.mp task_mem, same_id⟩

/-- A new requester has been answered at once. -/
theorem refuse (attended : Attended requesters tasks)
    (not_held : requester.handoff.sender ≠ .held) : Attended (requester :: requesters) tasks where
  awaited := by
    intro task mem
    obtain ⟨found, found_mem, facts⟩ := attended.awaited task mem
    exact ⟨found, List.mem_cons_of_mem _ found_mem, facts⟩
  served := by
    intro found mem held
    rcases List.mem_cons.mp mem with rfl | old
    · exact absurd held not_held
    · exact attended.served found old held

/-- A new task serves a new requester. -/
theorem enter (attended : Attended requesters tasks) (same_id : requester.id = task.id)
    (same_endpoint : requester.endpoint = task.endpoint)
    (held : requester.handoff.sender = .held) :
    Attended (requester :: requesters) (task :: tasks) where
  awaited := by
    intro other mem
    rcases List.mem_cons.mp mem with rfl | old
    · exact ⟨requester, List.mem_cons_self, same_id, same_endpoint, held⟩
    · obtain ⟨found, found_mem, facts⟩ := attended.awaited other old
      exact ⟨found, List.mem_cons_of_mem _ found_mem, facts⟩
  served := by
    intro found mem found_held
    rcases List.mem_cons.mp mem with rfl | old
    · exact ⟨task, List.mem_cons_self, same_id.symm⟩
    · obtain ⟨other, other_mem, other_id⟩ := attended.served found old found_held
      exact ⟨other, List.mem_cons_of_mem _ other_mem, other_id⟩

/-- One requester changes without an answer of the pool. -/
theorem exchange (attended : Attended (requester :: others) tasks)
    (same_id : requester'.id = requester.id)
    (same_endpoint : requester'.endpoint = requester.endpoint)
    (held_iff : requester'.handoff.sender = .held ↔ requester.handoff.sender = .held) :
    Attended (requester' :: others) tasks where
  awaited := by
    intro task mem
    obtain ⟨found, found_mem, found_id, found_endpoint, held⟩ := attended.awaited task mem
    rcases List.mem_cons.mp found_mem with rfl | old
    · exact ⟨requester', List.mem_cons_self, same_id.trans found_id,
        same_endpoint.trans found_endpoint, held_iff.mpr held⟩
    · exact ⟨found, List.mem_cons_of_mem _ old, found_id, found_endpoint, held⟩
  served := by
    intro found mem held
    rcases List.mem_cons.mp mem with rfl | old
    · rw [same_id]
      exact attended.served requester List.mem_cons_self (held_iff.mp held)
    · exact attended.served found (List.mem_cons_of_mem _ old) held

/-- One task has a turn, after which it still waits or its requester is answered. -/
theorem turn (attended : Attended (requester :: others) tasks)
    (apart : ∀ other ∈ others, other.id ≠ requester.id)
    (same_id : requester'.id = requester.id)
    (other_tasks : ∀ task : ServeTask, task.id ≠ requester.id → (task ∈ tasks' ↔ task ∈ tasks))
    (rests : (requester'.handoff.sender = .held ∧ (∃ task ∈ tasks', task.id = requester.id) ∧
        ∀ task ∈ tasks', task.id = requester.id → requester'.endpoint = task.endpoint) ∨
      (requester'.handoff.sender ≠ .held ∧ ∀ task ∈ tasks', task.id ≠ requester.id)) :
    Attended (requester' :: others) tasks' where
  awaited := by
    intro task mem
    by_cases own : task.id = requester.id
    · rcases rests with ⟨held, _, endpoint_eq⟩ | ⟨_, gone⟩
      · exact ⟨requester', List.mem_cons_self, same_id.trans own.symm, endpoint_eq task mem own,
          held⟩
      · exact absurd own (gone task mem)
    · obtain ⟨found, found_mem, found_id, facts⟩ :=
        attended.awaited task ((other_tasks task own).mp mem)
      rcases List.mem_cons.mp found_mem with rfl | old
      · exact absurd found_id.symm own
      · exact ⟨found, List.mem_cons_of_mem _ old, found_id, facts⟩
  served := by
    intro found mem held
    rcases List.mem_cons.mp mem with rfl | old
    · rcases rests with ⟨_, waiting, _⟩ | ⟨not_held, _⟩
      · rw [same_id]
        exact waiting
      · exact absurd held not_held
    · obtain ⟨task, task_mem, task_id⟩ :=
        attended.served found (List.mem_cons_of_mem _ old) held
      have other : task.id ≠ requester.id := by
        rw [task_id]
        exact apart found old
      exact ⟨task, (other_tasks task other).mpr task_mem, task_id⟩

end Attended

end Courier
