import Courier.Proofs.Pool.Ledger

/-!
# Turns of a task and the ledger

A turn of a task changes one slot, one task and nothing else that anybody uses.  So a pool is seen
from that slot and that task: what a turn does to these two is checked against what the slot does,
and the ledger of the pool follows.
-/

namespace Courier

open ServeTask (idsAt)
open LeasedConnection (idsOf)

/-- A slot still backs its users if it serves them, on the same terms, and counts them. -/
theorem KeptSlot.Backs.update {kept : KeptSlot} {limits : PoolLimits}
    {queued holding leased queued' holding' leased' : List Nat}
    (backs : kept.Backs limits queued holding leased) {change : Slot → Slot} {count : Nat → Nat}
    (terms_eq : (change kept.slot).terms = kept.slot.terms)
    (serves' : (change kept.slot).Serves queued' holding' leased')
    (references_eq' :
      count kept.references = 1 + queued'.length + holding'.length + leased'.length) :
    (kept.update change count).Backs limits queued' holding' leased' where
  serves := serves'
  references_eq := references_eq'
  maxConnections_eq := (congrArg Slot.Terms.maxConnections terms_eq).trans backs.maxConnections_eq
  maxWaiters_eq := (congrArg Slot.Terms.maxWaiters terms_eq).trans backs.maxWaiters_eq

namespace TcpPool

variable {pool pool' pool'' : TcpPool} {connections : List LeasedConnection}
  {kept : KeptSlot} {others : List KeptSlot} {task : ServeTask} {rest : List ServeTask}
  {id slot : Nat} {stage : ServeStage} {change : Slot → Slot} {count : Nat → Nat}

/-- A pool whose ledger is in order. -/
structure Sound (pool : TcpPool) (connections : List LeasedConnection) : Prop where
  ledger : Ledger pool.limits pool.slots pool.tasks connections
  /-- Identities of slots are never used again. -/
  slots_below : ∀ kept ∈ pool.slots, kept.id < pool.nextSlot

/-! ## What a turn leaves alone -/

/-- What a turn of one task leaves of a pool: its limits, whether it is closed, the terms of its
slots and all other tasks. -/
structure Follows (pool pool' : TcpPool) (id : Nat) : Prop where
  limits_eq : pool'.limits = pool.limits
  closed_eq : pool'.closed = pool.closed
  nextSlot_le : pool.nextSlot ≤ pool'.nextSlot
  /-- A slot was kept before, or it is new. -/
  slots_from : ∀ kept' ∈ pool'.slots,
    (∃ kept ∈ pool.slots, kept.id = kept'.id ∧ kept'.slot.terms = kept.slot.terms) ∨
      pool.nextSlot ≤ kept'.id
  tasks_iff : ∀ task : ServeTask, task.id ≠ id → (task ∈ pool'.tasks ↔ task ∈ pool.tasks)

namespace Follows

theorem refl (pool : TcpPool) (id : Nat) : pool.Follows pool id :=
  ⟨rfl, rfl, Nat.le_refl _, fun kept mem => Or.inl ⟨kept, mem, rfl, rfl⟩, fun _ _ => Iff.rfl⟩

theorem trans (first : pool.Follows pool' id) (second : pool'.Follows pool'' id) :
    pool.Follows pool'' id where
  limits_eq := second.limits_eq.trans first.limits_eq
  closed_eq := second.closed_eq.trans first.closed_eq
  nextSlot_le := Nat.le_trans first.nextSlot_le second.nextSlot_le
  slots_from := by
    intro kept'' mem
    rcases second.slots_from kept'' mem with ⟨kept', kept'_mem, same_id, same_terms⟩ | is_new
    · rcases first.slots_from kept' kept'_mem with ⟨kept, kept_mem, old_id, old_terms⟩ | was_new
      · exact Or.inl ⟨kept, kept_mem, old_id.trans same_id, same_terms.trans old_terms⟩
      · exact Or.inr (same_id ▸ was_new)
    · exact Or.inr (Nat.le_trans first.nextSlot_le is_new)
  tasks_iff := fun task other =>
    (second.tasks_iff task other).trans (first.tasks_iff task other)

theorem updateSlot
    (terms_kept : ∀ kept ∈ pool.slots, kept.id = slot →
      (change kept.slot).terms = kept.slot.terms) :
    pool.Follows (pool.updateSlot slot change count) id := by
  refine ⟨rfl, rfl, Nat.le_refl _, ?_, fun _ _ => Iff.rfl⟩
  intro kept' mem
  obtain ⟨kept, kept_mem, rfl⟩ := List.mem_map.mp mem
  refine Or.inl ⟨kept, kept_mem, ?_⟩
  split
  · rename_i same_id
    exact ⟨rfl, terms_kept kept kept_mem (eq_of_beq same_id)⟩
  · exact ⟨rfl, rfl⟩

theorem endTask (pool : TcpPool) (id : Nat) : pool.Follows (pool.endTask id) id := by
  refine ⟨rfl, rfl, Nat.le_refl _, fun kept mem => Or.inl ⟨kept, mem, rfl, rfl⟩, ?_⟩
  intro task other
  rw [TcpPool.endTask, List.mem_filter]
  exact ⟨And.left, fun mem => ⟨mem, by simpa using other⟩⟩

theorem moveTask (pool : TcpPool) (id : Nat) (stage : ServeStage) :
    pool.Follows (pool.moveTask id stage) id := by
  refine ⟨rfl, rfl, Nat.le_refl _, fun kept mem => Or.inl ⟨kept, mem, rfl, rfl⟩, ?_⟩
  intro task other
  rw [TcpPool.moveTask, List.mem_map]
  constructor
  · rintro ⟨found, found_mem, rfl⟩
    split at other
    · rename_i same_id
      exact absurd (eq_of_beq same_id) other
    · rename_i different
      rw [if_neg different]
      exact found_mem
  · intro mem
    exact ⟨task, mem, by rw [if_neg (by simpa using other)]⟩

theorem leave (pool : TcpPool) (id slot : Nat) : pool.Follows (pool.leave id slot) id :=
  (updateSlot fun _ _ _ => rfl).trans (endTask _ id)

theorem countFailure (pool : TcpPool) (id : Nat) : pool.Follows pool.countFailure id :=
  ⟨rfl, rfl, Nat.le_refl _, fun kept mem => Or.inl ⟨kept, mem, rfl, rfl⟩, fun _ _ => Iff.rfl⟩

theorem evictIdle (pool : TcpPool) (id : Nat) : pool.Follows pool.evictIdle id :=
  ⟨rfl, rfl, Nat.le_refl _,
    fun kept mem => Or.inl ⟨kept, List.mem_of_mem_filter mem, rfl, rfl⟩, fun _ _ => Iff.rfl⟩

theorem ensureSlot (pool : TcpPool) (endpoint : Endpoint) (id : Nat) :
    pool.Follows (pool.ensureSlot endpoint).1 id := by
  rw [TcpPool.ensureSlot]
  split
  · exact refl pool id
  · refine ⟨rfl, rfl, Nat.le_succ _, ?_, fun _ _ => Iff.rfl⟩
    intro kept mem
    rcases List.mem_append.mp mem with old | is_new
    · exact Or.inl ⟨kept, old, rfl, rfl⟩
    · obtain rfl := List.mem_singleton.mp is_new
      exact Or.inr (Nat.le_refl _)

theorem giveUpPermit (pool : TcpPool) (id slot : Nat) :
    pool.Follows (pool.giveUpPermit id slot) id :=
  (updateSlot fun kept _ _ => kept.slot.returnPermit_terms id).trans (leave _ id slot)

theorem abandon (pool : TcpPool) (id slot : Nat) :
    pool.Follows ((pool.changeSlot slot (·.abandon id)).leave id slot) id :=
  (updateSlot fun kept _ _ => kept.slot.abandon_terms id).trans (leave _ id slot)

theorem afterReservation (pool : TcpPool) (view : RequesterView) (id slot : Nat)
    (answer : Slot.Answer) : pool.Follows (pool.afterReservation view id slot answer).1 id := by
  cases answer with
  | granted =>
      rw [TcpPool.afterReservation]
      split
      · exact giveUpPermit pool id slot
      · exact moveTask pool id _
  | failed error => exact (leave pool id slot).trans (countFailure _ id)
  | pending =>
      rw [TcpPool.afterReservation]
      split
      · exact abandon pool id slot
      · exact moveTask pool id _

end Follows

/-! ## A pool seen from one slot and one task -/

theorem updateSlot_perm (slots_perm : pool.slots.Perm (kept :: others))
    (apart : ∀ other ∈ others, other.id ≠ kept.id) :
    (pool.updateSlot kept.id change count).slots.Perm (kept.update change count :: others) := by
  refine (slots_perm.map _).trans (List.Perm.of_eq ?_)
  rw [List.map_cons, if_pos (by simp)]
  refine congrArg _ ((List.map_congr_left fun other mem => ?_).trans (List.map_id _))
  exact if_neg (by simpa using apart other mem)

theorem updateSlot_below (below : ∀ kept ∈ pool.slots, kept.id < pool.nextSlot) :
    ∀ kept ∈ (pool.updateSlot slot change count).slots, kept.id < pool.nextSlot := by
  intro kept mem
  obtain ⟨found, found_mem, rfl⟩ := List.mem_map.mp mem
  split <;> exact below found found_mem

theorem endTask_perm (tasks_perm : pool.tasks.Perm (task :: rest))
    (apart : ∀ other ∈ rest, other.id ≠ task.id) :
    (pool.endTask task.id).tasks.Perm rest := by
  refine (tasks_perm.filter _).trans (List.Perm.of_eq ?_)
  rw [List.filter_cons_of_neg (by simp), List.filter_eq_self]
  intro other mem
  simpa using apart other mem

theorem moveTask_perm (tasks_perm : pool.tasks.Perm (task :: rest))
    (apart : ∀ other ∈ rest, other.id ≠ task.id) :
    (pool.moveTask task.id stage).tasks.Perm ({ task with stage } :: rest) := by
  refine (tasks_perm.map _).trans (List.Perm.of_eq ?_)
  rw [List.map_cons, if_pos (by simp)]
  refine congrArg _ ((List.map_congr_left fun other mem => ?_).trans (List.map_id _))
  exact if_neg (by simpa using apart other mem)

/-- A pool seen from a slot and a task that uses it or is about to: whatever has become of the
slot, the ledger was in order before. -/
structure Focus (pool : TcpPool) (connections : List LeasedConnection) (kept : KeptSlot)
    (others : List KeptSlot) (task : ServeTask) (rest : List ServeTask) : Prop where
  slots_perm : pool.slots.Perm (kept :: others)
  tasks_perm : pool.tasks.Perm (task :: rest)
  before : ∃ before : KeptSlot, before.id = kept.id ∧ kept.slot.terms = before.slot.terms ∧
    Ledger pool.limits (before :: others) (task :: rest) connections
  here : ∀ slot, task.stage.slot? = some slot → slot = kept.id
  endpoint_eq : kept.slot.endpoint = task.endpoint
  slots_below : ∀ other ∈ pool.slots, other.id < pool.nextSlot

theorem Sound.focus (sound : pool.Sound connections) (kept_mem : kept ∈ pool.slots)
    (task_mem : task ∈ pool.tasks)
    (here : ∀ slot, task.stage.slot? = some slot → slot = kept.id)
    (endpoint_eq : kept.slot.endpoint = task.endpoint) :
    ∃ others rest, pool.Focus connections kept others task rest ∧
      Ledger pool.limits (kept :: others) (task :: rest) connections := by
  have slots_perm := Identity.perm_cons_others sound.ledger.slots_distinct kept_mem
  have tasks_perm := Identity.perm_cons_others sound.ledger.tasks_distinct task_mem
  have ledger := sound.ledger.perm slots_perm tasks_perm (.refl _)
  exact ⟨_, _, ⟨slots_perm, tasks_perm, ⟨kept, rfl, rfl, ledger⟩, here, endpoint_eq,
    sound.slots_below⟩, ledger⟩

namespace Focus

variable {leased : LeasedConnection}

theorem slots_apart (focus : pool.Focus connections kept others task rest) :
    ∀ other ∈ others, other.id ≠ kept.id := by
  obtain ⟨before, same_id, _, ledger⟩ := focus.before
  rw [← same_id]
  exact ledger.apart

theorem tasks_apart (focus : pool.Focus connections kept others task rest) :
    ∀ other ∈ rest, other.id ≠ task.id := by
  obtain ⟨_, _, _, ledger⟩ := focus.before
  exact ledger.tasks_apart

/-- The slot changes on its terms. -/
theorem updateSlot (focus : pool.Focus connections kept others task rest)
    (terms_eq : (change kept.slot).terms = kept.slot.terms) :
    (pool.updateSlot kept.id change count).Focus connections (kept.update change count) others
      task rest where
  slots_perm := updateSlot_perm focus.slots_perm focus.slots_apart
  tasks_perm := focus.tasks_perm
  before := by
    obtain ⟨before, same_id, same_terms, ledger⟩ := focus.before
    exact ⟨before, same_id, terms_eq.trans same_terms, ledger⟩
  here := focus.here
  endpoint_eq := (congrArg Slot.Terms.endpoint terms_eq).trans focus.endpoint_eq
  slots_below := updateSlot_below focus.slots_below

theorem changeSlot (focus : pool.Focus connections kept others task rest) (change : Slot → Slot)
    (terms_eq : (change kept.slot).terms = kept.slot.terms) :
    (pool.changeSlot kept.id change).Focus connections
      (kept.update change fun references => references) others task rest :=
  focus.updateSlot terms_eq

theorem retain (focus : pool.Focus connections kept others task rest) :
    (pool.retain kept.id).Focus connections (kept.update (fun slot => slot) (· + 1)) others task
      rest :=
  focus.updateSlot rfl

theorem release (focus : pool.Focus connections kept others task rest) :
    (pool.release kept.id).Focus connections (kept.update (fun slot => slot) (· - 1)) others task
      rest :=
  focus.updateSlot rfl

/-- The task ends, and its slot backs the other users. -/
theorem endTask (focus : pool.Focus connections kept others task rest)
    (backs : kept.Accounted pool.limits rest connections) :
    (pool.endTask task.id).Sound connections := by
  obtain ⟨before, same_id, same_terms, ledger⟩ := focus.before
  have here : ∀ slot, task.stage.slot? = some slot → slot = before.id := by
    rw [same_id]
    exact focus.here
  refine ⟨?_, focus.slots_below⟩
  exact (ledger.depart here same_id.symm (congrArg Slot.Terms.endpoint same_terms) backs).perm
    focus.slots_perm.symm (endTask_perm focus.tasks_perm focus.tasks_apart).symm (.refl _)

/-- The task comes to a stage at which its slot backs it. -/
theorem moveTask (focus : pool.Focus connections kept others task rest)
    (uses : stage.slot? = some kept.id)
    (backs : kept.Accounted pool.limits ({ task with stage } :: rest) connections) :
    (pool.moveTask task.id stage).Sound connections := by
  obtain ⟨before, same_id, same_terms, ledger⟩ := focus.before
  have here : ∀ slot, task.stage.slot? = some slot → slot = before.id := by
    rw [same_id]
    exact focus.here
  have same_endpoint := congrArg Slot.Terms.endpoint same_terms
  refine ⟨?_, focus.slots_below⟩
  exact (ledger.progress here (same_endpoint.symm.trans focus.endpoint_eq)
    (uses.trans (congrArg some same_id.symm)) same_id.symm same_endpoint backs).perm
    focus.slots_perm.symm (moveTask_perm focus.tasks_perm focus.tasks_apart).symm (.refl _)

/-- The task ends, and a connection has the slot instead. -/
theorem lease (focus : pool.Focus connections kept others task rest)
    (slot_eq : leased.slot = kept.id) (endpoint_eq : leased.endpoint = task.endpoint)
    (fresh : ∀ other ∈ connections, other.id ≠ leased.id)
    (backs : kept.Accounted pool.limits rest (leased :: connections)) :
    (pool.endTask task.id).Sound (leased :: connections) := by
  obtain ⟨before, same_id, same_terms, ledger⟩ := focus.before
  have here : ∀ slot, task.stage.slot? = some slot → slot = before.id := by
    rw [same_id]
    exact focus.here
  have same_endpoint := congrArg Slot.Terms.endpoint same_terms
  refine ⟨?_, focus.slots_below⟩
  exact (ledger.lease here (slot_eq.trans same_id.symm)
    ((same_endpoint.symm.trans focus.endpoint_eq).trans endpoint_eq.symm) fresh same_id.symm
    same_endpoint backs).perm
    focus.slots_perm.symm (endTask_perm focus.tasks_perm focus.tasks_apart).symm (.refl _)

theorem id_new (focus : pool.Focus connections kept others task rest) (stage : ServeStage) :
    (task.id :: idsAt rest stage).Nodup := by
  obtain ⟨_, _, _, ledger⟩ := focus.before
  rw [List.nodup_cons]
  refine ⟨?_, ServeTask.idsAt_nodup (List.nodup_cons.mp ledger.tasks_distinct).2 stage⟩
  intro used
  obtain ⟨other, mem, same⟩ := List.mem_map.mp used
  exact ledger.tasks_apart other (List.mem_of_mem_filter mem) same

theorem backs (focus : pool.Focus connections kept others task rest)
    {queued holding leased : List Nat} (serves : kept.slot.Serves queued holding leased)
    (references_eq : kept.references = 1 + queued.length + holding.length + leased.length) :
    kept.Backs pool.limits queued holding leased := by
  obtain ⟨before, _, same_terms, ledger⟩ := focus.before
  have accounted := ledger.accounted before List.mem_cons_self
  exact ⟨serves, references_eq,
    (congrArg Slot.Terms.maxConnections same_terms).trans accounted.maxConnections_eq,
    (congrArg Slot.Terms.maxWaiters same_terms).trans accounted.maxWaiters_eq⟩

/-- The task ends and drops its reference to a slot that serves the other users. -/
theorem leave (focus : pool.Focus connections kept others task rest)
    (serves : kept.slot.Serves (idsAt rest (.queued kept.id)) (idsAt rest (.dialing kept.id))
      (idsOf connections kept.id))
    (references_eq : kept.references =
      1 + (idsAt rest (.queued kept.id)).length + (idsAt rest (.dialing kept.id)).length +
        (idsOf connections kept.id).length + 1) :
    (pool.leave task.id kept.id).Sound connections := by
  exact focus.release.endTask (focus.release.backs serves
    (by simp only [KeptSlot.update, references_eq]; omega))

/-- A reservation was polled: the slot has a reference of the task, and lists the task where the
answer says. -/
structure Polled (pool : TcpPool) (connections : List LeasedConnection) (kept : KeptSlot)
    (others : List KeptSlot) (task : ServeTask) (rest : List ServeTask) (answer : Slot.Answer) :
    Prop where
  focus : pool.Focus connections kept others task rest
  after : kept.slot.AfterPoll task.id (idsAt rest (.queued kept.id))
    (idsAt rest (.dialing kept.id)) (idsOf connections kept.id) answer
  references_eq : kept.references =
    1 + (idsAt rest (.queued kept.id)).length + (idsAt rest (.dialing kept.id)).length +
      (idsOf connections kept.id).length + 1

/-- However a task goes on after its reservation was polled, the ledger is in order. -/
theorem Polled.afterReservation {answer : Slot.Answer}
    (polled : Polled pool connections kept others task rest answer) (view : RequesterView) :
    (pool.afterReservation view task.id kept.id answer).1.Sound connections := by
  obtain ⟨focus, after, references_eq⟩ := polled
  cases answer with
  | failed error =>
      have left := focus.leave after references_eq
      exact ⟨left.ledger, left.slots_below⟩
  | granted =>
      rw [TcpPool.afterReservation]
      split
      · have returned := focus.changeSlot (·.returnPermit task.id)
          (kept.slot.returnPermit_terms task.id)
        exact returned.leave after.returnPermit references_eq
      · refine focus.moveTask rfl ?_
        rw [KeptSlot.Accounted, ServeTask.idsAt_cons_of_ne (by simp),
          ServeTask.idsAt_cons_self rfl]
        exact focus.backs after (by rw [references_eq, List.length_cons]; dsimp only; omega)
  | pending =>
      rw [TcpPool.afterReservation]
      split
      · have abandoned := focus.changeSlot (·.abandon task.id) (kept.slot.abandon_terms task.id)
        exact abandoned.leave (after.abandon (focus.id_new _)) references_eq
      · refine focus.moveTask rfl ?_
        rw [KeptSlot.Accounted, ServeTask.idsAt_cons_self rfl,
          ServeTask.idsAt_cons_of_ne (by simp)]
        exact focus.backs after (by rw [references_eq, List.length_cons]; dsimp only; omega)

end Focus

/-! ## Slots of endpoints -/

theorem mem_of_slotOf {endpoint : Endpoint} (found : pool.slotOf? endpoint = some kept) :
    kept ∈ pool.slots ∧ kept.slot.endpoint = endpoint :=
  ⟨List.mem_of_find?_eq_some found, by simpa using List.find?_some found⟩

theorem ne_of_slotOf_eq_none {endpoint : Endpoint} (absent : pool.slotOf? endpoint = none) :
    ∀ kept ∈ pool.slots, kept.slot.endpoint ≠ endpoint := by
  intro kept mem
  simpa using List.find?_eq_none.mp absent kept mem

theorem Sound.evictIdle (sound : pool.Sound connections) : pool.evictIdle.Sound connections :=
  ⟨sound.ledger.evict, fun kept mem => sound.slots_below kept (List.mem_of_mem_filter mem)⟩

theorem idleSlot_backs (pool : TcpPool) (endpoint : Endpoint) :
    (pool.idleSlot endpoint).Backs pool.limits [] [] [] :=
  ⟨Slot.create_serves _ _ _, rfl, rfl, rfl⟩

/-- A slot that is kept for an endpoint or made for it is kept then. -/
theorem Sound.ensureSlot (sound : pool.Sound connections) (endpoint : Endpoint) :
    (pool.ensureSlot endpoint).1.Sound connections ∧
      (pool.ensureSlot endpoint).2 ∈ (pool.ensureSlot endpoint).1.slots ∧
      (pool.ensureSlot endpoint).2.slot.endpoint = endpoint := by
  rw [TcpPool.ensureSlot]
  split
  · rename_i kept found
    exact ⟨sound, mem_of_slotOf found⟩
  · rename_i absent
    refine ⟨⟨?_, ?_⟩, List.mem_append_right _ List.mem_cons_self, rfl⟩
    · have admitted := sound.ledger.admit_slot
        (fun other mem => Nat.ne_of_lt (sound.slots_below other mem))
        (ne_of_slotOf_eq_none absent) (pool.idleSlot_backs endpoint)
      exact admitted.perm (List.perm_append_singleton _ _).symm (.refl _) (.refl _)
    · intro kept mem
      rcases List.mem_append.mp mem with old | is_new
      · exact Nat.lt_succ_of_lt (sound.slots_below kept old)
      · obtain rfl := List.mem_singleton.mp is_new
        exact Nat.lt_succ_self _

theorem ensureSlot_tasks (pool : TcpPool) (endpoint : Endpoint) :
    (pool.ensureSlot endpoint).1.tasks = pool.tasks := by
  rw [TcpPool.ensureSlot]
  split <;> rfl

theorem ensureSlot_of_found {endpoint : Endpoint} (found : pool.slotOf? endpoint = some kept) :
    pool.ensureSlot endpoint = (pool, kept) := by
  rw [TcpPool.ensureSlot, found]

theorem ensureSlot_of_absent {endpoint : Endpoint} (absent : pool.slotOf? endpoint = none) :
    (pool.ensureSlot endpoint).2 = pool.idleSlot endpoint := by
  rw [TcpPool.ensureSlot, absent]

/-! ## Starting and resuming a task -/

/-- A pool after a first poll of the reservation of a task. -/
def reserving (pool : TcpPool) (kept : KeptSlot) (id : Nat) : TcpPool :=
  (pool.retain kept.id).changeSlot kept.id fun _ => (kept.slot.reserve id).1

/-- A pool after a later poll. -/
def polling (pool : TcpPool) (kept : KeptSlot) (id : Nat) : TcpPool :=
  pool.changeSlot kept.id fun _ => (kept.slot.poll id).1

/-- The outcomes of a start. -/
theorem start_cases (pool : TcpPool) (view : RequesterView) (task : ServeTask) :
    (view.cancelled = true ∧ pool.start view task = (pool.endTask task.id, .error .givenUp)) ∨
      (view.cancelled = false ∧ pool.limits.maxPoolSize.toNat > permitLimit ∧
        pool.evictIdle.slotOf? task.endpoint = none ∧
        pool.start view task = (pool.evictIdle.endTask task.id, .error .crashed)) ∨
      (view.cancelled = false ∧
        (pool.limits.maxPoolSize.toNat ≤ permitLimit ∨
          (pool.evictIdle.slotOf? task.endpoint).isSome = true) ∧
        ∃ opened kept, pool.evictIdle.ensureSlot task.endpoint = (opened, kept) ∧
          pool.start view task =
            (opened.reserving kept task.id).afterReservation view task.id kept.id
              (kept.slot.reserve task.id).2) := by
  rw [TcpPool.start]
  cases cancelled : view.cancelled with
  | true => exact Or.inl ⟨rfl, rfl⟩
  | false =>
      refine Or.inr ?_
      rw [if_neg Bool.false_ne_true]
      dsimp only
      split
      · rename_i crashes
        obtain ⟨too_many, absent⟩ := Bool.and_eq_true_iff.mp crashes
        exact Or.inl ⟨rfl, of_decide_eq_true too_many, by simpa using absent, rfl⟩
      · rename_i goes_on
        refine Or.inr ⟨rfl, ?_, _, _, rfl, rfl⟩
        by_cases few : pool.limits.maxPoolSize.toNat ≤ permitLimit
        · exact Or.inl few
        · refine Or.inr ?_
          cases found : pool.evictIdle.slotOf? task.endpoint with
          | some kept => rfl
          | none =>
              refine absurd ?_ goes_on
              rw [found, Bool.and_eq_true_iff]
              exact ⟨by simpa [TcpPool.evictIdle] using few, rfl⟩

/-- The outcomes of going on in the queue. -/
theorem resume_cases {look : FirstLook} {view : RequesterView}
    (found : pool.slot? slot = some kept) :
    (look = .requester ∧ view.dropped = true ∧
        pool.resume look view id slot =
          ((pool.changeSlot slot (·.abandon id)).leave id slot, .error .givenUp)) ∨
      ((look = .reservation ∨ view.dropped = false) ∧
        pool.resume look view id slot =
          (pool.polling kept id).afterReservation view id kept.id (kept.slot.poll id).2) := by
  have same_id : kept.id = slot := (Identity.mem_of_find found).2
  rw [resume, found]
  dsimp only
  split
  · rename_i gives_up
    obtain ⟨looks, dropped⟩ := Bool.and_eq_true_iff.mp gives_up
    exact Or.inl ⟨by simpa using looks, dropped, rfl⟩
  · rename_i goes_on
    refine Or.inr ⟨?_, by rw [same_id, polling, same_id]⟩
    cases look with
    | reservation => exact Or.inl rfl
    | requester => exact Or.inr (by simpa using goes_on)

theorem Sound.dismiss (sound : pool.Sound connections) (mem : task ∈ pool.tasks)
    (spawned : task.stage = .spawned) : (pool.endTask task.id).Sound connections := by
  have tasks_perm := Identity.perm_cons_others sound.ledger.tasks_distinct mem
  have ledger := sound.ledger.perm (.refl _) tasks_perm (.refl _)
  exact ⟨(ledger.dismiss spawned).perm (.refl _)
    (endTask_perm tasks_perm ledger.tasks_apart).symm (.refl _), sound.slots_below⟩

theorem Sound.reserving (sound : pool.Sound connections) (kept_mem : kept ∈ pool.slots)
    (task_mem : task ∈ pool.tasks) (spawned : task.stage = .spawned)
    (endpoint_eq : kept.slot.endpoint = task.endpoint) (view : RequesterView) :
    ((pool.reserving kept task.id).afterReservation view task.id kept.id
      (kept.slot.reserve task.id).2).1.Sound connections := by
  have here : ∀ slot, task.stage.slot? = some slot → slot = kept.id := by
    intro slot uses
    rw [spawned] at uses
    cases uses
  obtain ⟨others, rest, focus, ledger⟩ := sound.focus kept_mem task_mem here endpoint_eq
  have backs := ledger.accounted kept List.mem_cons_self
  rw [KeptSlot.Accounted, Ledger.idsAt_of_spawned spawned rfl,
    Ledger.idsAt_of_spawned spawned rfl] at backs
  have reserved : (pool.reserving kept task.id).Focus connections
      ((kept.update (fun slot => slot) (· + 1)).update (fun _ => (kept.slot.reserve task.id).1)
        fun references => references) others task rest :=
    focus.retain.changeSlot _ (kept.slot.reserve_terms task.id)
  refine Focus.Polled.afterReservation ⟨reserved, backs.serves.reserve task.id, ?_⟩ view
  exact congrArg (· + 1) backs.references_eq

/-- A task that uses a slot, the slot, and whom it serves besides. -/
theorem Sound.focus_user (sound : pool.Sound connections) (kept_mem : kept ∈ pool.slots)
    (task_mem : task ∈ pool.tasks) (uses : task.stage.slot? = some kept.id) :
    ∃ others rest, pool.Focus connections kept others task rest ∧
      kept.Accounted pool.limits (task :: rest) connections := by
  have here : ∀ slot, task.stage.slot? = some slot → slot = kept.id := fun slot used =>
    Option.some.inj (used.symm.trans uses)
  obtain ⟨others, rest, focus, ledger⟩ := sound.focus kept_mem task_mem here
    (sound.ledger.endpoint_of_task kept_mem task_mem uses)
  exact ⟨others, rest, focus, ledger.accounted kept List.mem_cons_self⟩

theorem accounted_queued {limits : PoolLimits} (queued : task.stage = .queued kept.id)
    (accounted : kept.Accounted limits (task :: rest) connections) :
    kept.Backs limits (task.id :: idsAt rest (.queued kept.id)) (idsAt rest (.dialing kept.id))
      (idsOf connections kept.id) := by
  rw [KeptSlot.Accounted, ServeTask.idsAt_cons_self queued,
    ServeTask.idsAt_cons_of_ne (by simp [queued])] at accounted
  exact accounted

theorem accounted_dialing {limits : PoolLimits} (dialing : task.stage = .dialing kept.id)
    (accounted : kept.Accounted limits (task :: rest) connections) :
    kept.Backs limits (idsAt rest (.queued kept.id)) (task.id :: idsAt rest (.dialing kept.id))
      (idsOf connections kept.id) := by
  rw [KeptSlot.Accounted, ServeTask.idsAt_cons_of_ne (by simp [dialing]),
    ServeTask.idsAt_cons_self dialing] at accounted
  exact accounted

theorem Sound.polling (sound : pool.Sound connections) (kept_mem : kept ∈ pool.slots)
    (task_mem : task ∈ pool.tasks) (queued : task.stage = .queued kept.id)
    (view : RequesterView) :
    ((pool.polling kept task.id).afterReservation view task.id kept.id
      (kept.slot.poll task.id).2).1.Sound connections := by
  obtain ⟨others, rest, focus, accounted⟩ :=
    sound.focus_user kept_mem task_mem (by rw [queued]; rfl)
  have backs := accounted_queued queued accounted
  have polled : (pool.polling kept task.id).Focus connections
      (kept.update (fun _ => (kept.slot.poll task.id).1) fun references => references) others
        task rest := focus.changeSlot _ (kept.slot.poll_terms task.id)
  refine Focus.Polled.afterReservation ⟨polled, backs.serves.poll (focus.id_new _), ?_⟩ view
  have references_eq := backs.references_eq
  rw [List.length_cons] at references_eq
  simp only [KeptSlot.update, references_eq]
  omega

theorem Sound.abandon (sound : pool.Sound connections) (kept_mem : kept ∈ pool.slots)
    (task_mem : task ∈ pool.tasks) (queued : task.stage = .queued kept.id) :
    ((pool.changeSlot kept.id (·.abandon task.id)).leave task.id kept.id).Sound connections := by
  obtain ⟨others, rest, focus, accounted⟩ :=
    sound.focus_user kept_mem task_mem (by rw [queued]; rfl)
  have backs := accounted_queued queued accounted
  have abandoned := focus.changeSlot (·.abandon task.id) (kept.slot.abandon_terms task.id)
  refine abandoned.leave (backs.serves.abandon (focus.id_new _)) ?_
  have references_eq := backs.references_eq
  rw [List.length_cons] at references_eq
  simp only [KeptSlot.update, references_eq]
  omega

theorem Sound.giveUpPermit (sound : pool.Sound connections) (kept_mem : kept ∈ pool.slots)
    (task_mem : task ∈ pool.tasks) (dialing : task.stage = .dialing kept.id) :
    (pool.giveUpPermit task.id kept.id).Sound connections := by
  obtain ⟨others, rest, focus, accounted⟩ :=
    sound.focus_user kept_mem task_mem (by rw [dialing]; rfl)
  have backs := accounted_dialing dialing accounted
  have returned := focus.changeSlot (·.returnPermit task.id) (kept.slot.returnPermit_terms task.id)
  refine returned.leave backs.serves.returnPermit ?_
  have references_eq := backs.references_eq
  rw [List.length_cons] at references_eq
  simp only [KeptSlot.update, references_eq]
  omega

/-- A permit becomes the lease of a new connection. -/
theorem Sound.lease (sound : pool.Sound connections) (kept_mem : kept ∈ pool.slots)
    (task_mem : task ∈ pool.tasks) (dialing : task.stage = .dialing kept.id)
    (leased : LeasedConnection) (slot_eq : leased.slot = kept.id)
    (endpoint_eq : leased.endpoint = task.endpoint)
    (fresh : ∀ other ∈ connections, other.id ≠ leased.id) :
    (pool.lease task.id kept.id leased.id).Sound (leased :: connections) := by
  obtain ⟨others, rest, focus, accounted⟩ :=
    sound.focus_user kept_mem task_mem (by rw [dialing]; rfl)
  have backs := accounted_dialing dialing accounted
  have leases : idsOf (leased :: connections) kept.id = leased.id :: idsOf connections kept.id :=
    LeasedConnection.idsOf_cons_self slot_eq
  have turned := focus.changeSlot (·.lease task.id leased.id) rfl
  have released := turned.retain.release
  refine released.lease slot_eq endpoint_eq fresh (released.backs ?_ ?_)
  · have serves := backs.serves.lease leased.id
    rw [← leases] at serves
    exact serves
  · have references_eq := backs.references_eq
    have more_leases := congrArg List.length leases
    rw [List.length_cons] at references_eq more_leases
    simp only [KeptSlot.update, references_eq, more_leases]
    omega

end TcpPool

end Courier
