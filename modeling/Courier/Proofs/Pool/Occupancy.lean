import Courier.Pool.Occupancy
import Courier.Proofs.Pool.Slot

/-!
# No permit is lost

Whatever the users of a slot do, the slot serves exactly those who have something of it: its
permits add up, and its counters are the numbers of its users.
-/

namespace Courier.Occupancy

variable {occupancy : Occupancy} {maxConnections maxWaiters id connection : Nat} {action : Action}

/-- A slot serves its users, on the terms it was made with, and they can be told apart. -/
structure Sound (maxConnections maxWaiters : Nat) (occupancy : Occupancy) : Prop where
  serves : occupancy.slot.Serves occupancy.queued occupancy.holding occupancy.leased
  maxConnections_eq : occupancy.slot.maxConnections = maxConnections
  maxWaiters_eq : occupancy.slot.maxWaiters = maxWaiters
  /-- An unfinished reservation was never polled or is queued. -/
  distinct : (occupancy.started ++ occupancy.queued).Nodup
  below : ∀ id ∈ occupancy.started ++ occupancy.queued, id < occupancy.next
  leased_distinct : occupancy.leased.Nodup

theorem sound_create (endpoint : Endpoint) (maxConnections maxWaiters : Nat) :
    Sound maxConnections maxWaiters (create endpoint maxConnections maxWaiters) :=
  ⟨Slot.create_serves endpoint maxConnections maxWaiters, rfl, rfl, .nil,
    fun _ mem => (List.not_mem_nil mem).elim, .nil⟩

namespace Sound

theorem not_queued (sound : occupancy.Sound maxConnections maxWaiters)
    (mem : id ∈ occupancy.started) : id ∉ occupancy.queued := fun queued =>
  (List.nodup_append.mp sound.distinct).2.2 id mem id queued rfl

theorem queued_nodup (sound : occupancy.Sound maxConnections maxWaiters) :
    occupancy.queued.Nodup := (List.nodup_append.mp sound.distinct).2.1

/-- The slot serves a reservation in its queue, and the others. -/
theorem serves_queued (sound : occupancy.Sound maxConnections maxWaiters)
    (mem : id ∈ occupancy.queued) :
    occupancy.slot.Serves (id :: occupancy.queued.erase id) occupancy.holding occupancy.leased :=
  sound.serves.perm (List.perm_cons_erase mem) (.refl _) (.refl _)

theorem queued_distinct (sound : occupancy.Sound maxConnections maxWaiters) :
    (id :: occupancy.queued.erase id).Nodup :=
  List.nodup_cons.mpr ⟨sound.queued_nodup.not_mem_erase, sound.queued_nodup.erase id⟩

/-- The slot changes on its terms, and its users with it. -/
theorem change (sound : occupancy.Sound maxConnections maxWaiters) {slot : Slot}
    {started queued holding leased : List Nat} (serves : slot.Serves queued holding leased)
    (terms_eq : slot.terms = occupancy.slot.terms) (distinct : (started ++ queued).Nodup)
    (unfinished : ∀ id ∈ started ++ queued, id ∈ occupancy.started ++ occupancy.queued)
    (leased_distinct : leased.Nodup) :
    Sound maxConnections maxWaiters
      { occupancy with slot, started, queued, holding, leased } where
  serves := serves
  maxConnections_eq :=
    (congrArg Slot.Terms.maxConnections terms_eq).trans sound.maxConnections_eq
  maxWaiters_eq := (congrArg Slot.Terms.maxWaiters terms_eq).trans sound.maxWaiters_eq
  distinct := distinct
  below := fun id mem => sound.below id (unfinished id mem)
  leased_distinct := leased_distinct

/-- Whoever is left of the unfinished reservations was one of them before. -/
theorem erase_subset (occupancy : Occupancy) (id : Nat) :
    ∀ other ∈ occupancy.started.erase id ++ occupancy.queued.erase id,
      other ∈ occupancy.started ++ occupancy.queued := by
  intro other mem
  exact ((List.erase_sublist (a := id)).append List.erase_sublist).subset mem

theorem erase_distinct (sound : occupancy.Sound maxConnections maxWaiters) (id : Nat) :
    (occupancy.started.erase id ++ occupancy.queued.erase id).Nodup :=
  sound.distinct.sublist (List.erase_sublist.append List.erase_sublist)

/-- The slot has answered a poll, and serves the reservation as it has told it. -/
theorem afterPoll (sound : occupancy.Sound maxConnections maxWaiters)
    (unfinished : id ∈ occupancy.started ++ occupancy.queued) {slot : Slot}
    {answer : Slot.Answer}
    (after : slot.AfterPoll id (occupancy.queued.erase id) occupancy.holding occupancy.leased
      answer)
    (terms_eq : slot.terms = occupancy.slot.terms) :
    (occupancy.afterPoll id slot answer).Sound maxConnections maxWaiters := by
  have distinct := sound.erase_distinct id
  have subset := erase_subset occupancy id
  cases answer with
  | granted => exact sound.change after terms_eq distinct subset sound.leased_distinct
  | failed error => exact sound.change after terms_eq distinct subset sound.leased_distinct
  | pending =>
      refine sound.change after terms_eq ?_ ?_ sound.leased_distinct
      · have started_distinct := (List.nodup_append.mp sound.distinct).1
        rw [List.perm_middle.nodup_iff, List.nodup_cons, List.mem_append, not_or]
        exact ⟨⟨started_distinct.not_mem_erase, sound.queued_nodup.not_mem_erase⟩, distinct⟩
      · intro other mem
        rcases List.mem_cons.mp (List.perm_middle.mem_iff.mp mem) with rfl | old
        · exact unfinished
        · exact subset other old

theorem poll (sound : occupancy.Sound maxConnections maxWaiters) (id : Nat) :
    (occupancy.step (.poll id)).Sound maxConnections maxWaiters := by
  rw [Occupancy.step]
  split
  · rename_i unfinished
    refine sound.afterPoll (List.mem_append.mpr unfinished) ?_ ?_
    · rw [pollSlot]
      split
      · rename_i started
        rw [List.erase_of_not_mem (sound.not_queued started)]
        exact sound.serves.reserve id
      · rename_i not_started
        have queued := unfinished.resolve_left not_started
        exact (sound.serves_queued queued).poll sound.queued_distinct
    · rw [pollSlot]
      split
      · exact occupancy.slot.reserve_terms id
      · exact occupancy.slot.poll_terms id
  · exact sound

theorem abandon (sound : occupancy.Sound maxConnections maxWaiters) (id : Nat) :
    (occupancy.step (.abandon id)).Sound maxConnections maxWaiters := by
  have distinct := sound.erase_distinct id
  have subset := erase_subset occupancy id
  rw [Occupancy.step]
  split
  · rename_i started
    rw [List.erase_of_not_mem (sound.not_queued started)] at distinct subset
    exact sound.change sound.serves rfl distinct subset sound.leased_distinct
  · rename_i not_started
    split
    · rename_i queued
      rw [List.erase_of_not_mem not_started] at distinct subset
      exact sound.change ((sound.serves_queued queued).abandon sound.queued_distinct)
        (occupancy.slot.abandon_terms id) distinct subset sound.leased_distinct
    · exact sound

/-- The slot serves the holder of a permit, and the others. -/
theorem serves_holding (sound : occupancy.Sound maxConnections maxWaiters)
    (mem : id ∈ occupancy.holding) :
    occupancy.slot.Serves occupancy.queued (id :: occupancy.holding.erase id) occupancy.leased :=
  sound.serves.perm (.refl _) (List.perm_cons_erase mem) (.refl _)

theorem lease (sound : occupancy.Sound maxConnections maxWaiters) (id connection : Nat) :
    (occupancy.step (.lease id connection)).Sound maxConnections maxWaiters := by
  rw [Occupancy.step]
  split
  · rename_i leases
    obtain ⟨holds, unleased⟩ := leases
    exact sound.change ((sound.serves_holding holds).lease connection) rfl sound.distinct
      (fun _ mem => mem) (List.nodup_cons.mpr ⟨unleased, sound.leased_distinct⟩)
  · exact sound

theorem dropPermit (sound : occupancy.Sound maxConnections maxWaiters) (id : Nat) :
    (occupancy.step (.dropPermit id)).Sound maxConnections maxWaiters := by
  rw [Occupancy.step]
  split
  · rename_i holds
    exact sound.change (sound.serves_holding holds).returnPermit
      (occupancy.slot.returnPermit_terms id) sound.distinct (fun _ mem => mem)
      sound.leased_distinct
  · exact sound

theorem endLease (sound : occupancy.Sound maxConnections maxWaiters) (connection : Nat) :
    (occupancy.step (.endLease connection)).Sound maxConnections maxWaiters := by
  rw [Occupancy.step]
  split
  · rename_i leased
    have serves := sound.serves.perm (.refl _) (.refl _) (List.perm_cons_erase leased)
    exact sound.change serves.endLease (occupancy.slot.endLease_terms connection) sound.distinct
      (fun _ mem => mem) (sound.leased_distinct.erase connection)
  · exact sound

theorem start (sound : occupancy.Sound maxConnections maxWaiters) :
    (occupancy.step .start).Sound maxConnections maxWaiters where
  serves := sound.serves
  maxConnections_eq := sound.maxConnections_eq
  maxWaiters_eq := sound.maxWaiters_eq
  distinct :=
    List.nodup_cons.mpr ⟨fun mem => Nat.lt_irrefl _ (sound.below _ mem), sound.distinct⟩
  below := by
    intro id mem
    rcases List.mem_cons.mp mem with rfl | old
    · exact Nat.lt_succ_self _
    · exact Nat.lt_succ_of_lt (sound.below id old)
  leased_distinct := sound.leased_distinct

/-- No action of a user puts a slot out of order. -/
theorem step (sound : occupancy.Sound maxConnections maxWaiters) (action : Action) :
    (occupancy.step action).Sound maxConnections maxWaiters := by
  cases action with
  | start => exact sound.start
  | poll id => exact sound.poll id
  | abandon id => exact sound.abandon id
  | lease id connection => exact sound.lease id connection
  | dropPermit id => exact sound.dropPermit id
  | endLease connection => exact sound.endLease connection
  | close =>
      exact ⟨sound.serves.close, sound.maxConnections_eq, sound.maxWaiters_eq, sound.distinct,
        sound.below, sound.leased_distinct⟩

theorem run (sound : occupancy.Sound maxConnections maxWaiters) (actions : List Action) :
    (occupancy.run actions).Sound maxConnections maxWaiters := by
  induction actions generalizing occupancy with
  | nil => exact sound
  | cons action rest induction => exact induction (sound.step action)

/-! ## Counting down -/

theorem balance (sound : occupancy.Sound maxConnections maxWaiters) :
    occupancy.slot.free + occupancy.slot.assigned + occupancy.holding.length +
      occupancy.leased.length = maxConnections := by
  rw [← sound.serves.granted_perm.length_eq, ← sound.serves.live_perm.length_eq,
    sound.serves.balance, sound.maxConnections_eq]

theorem waiting_eq (sound : occupancy.Sound maxConnections maxWaiters) :
    occupancy.slot.waiting = occupancy.queued.length := by
  rw [sound.serves.waiting_eq, ← sound.serves.queue_perm.length_eq, List.length_map]

theorem active_eq (sound : occupancy.Sound maxConnections maxWaiters) :
    occupancy.slot.active = occupancy.leased.length := by
  rw [sound.serves.active_eq, sound.serves.live_perm.length_eq]

/-- A reservation that leaves the queue is counted as waiting no more. -/
theorem waiting_of_left {after : Occupancy} (sound : occupancy.Sound maxConnections maxWaiters)
    (after_sound : after.Sound maxConnections maxWaiters) (mem : id ∈ occupancy.queued)
    (left : after.queued = occupancy.queued.erase id) :
    after.slot.waiting + 1 = occupancy.slot.waiting := by
  rw [after_sound.waiting_eq, sound.waiting_eq, left]
  exact List.length_erase_add_one mem

/-- Whatever takes one off a counter leaves one less, so there was one to take. -/
theorem counts_down (sound : occupancy.Sound maxConnections maxWaiters) {counter : Counter}
    (takes : occupancy.TakesFrom action counter) :
    counter.read (occupancy.step action).slot + 1 = counter.read occupancy.slot := by
  have after_sound := sound.step action
  cases action with
  | start => exact takes.elim
  | lease id connection => exact takes.elim
  | dropPermit id => exact takes.elim
  | close => exact takes.elim
  | poll id =>
      cases counter with
      | active => exact takes.elim
      | free =>
          obtain ⟨started, granted⟩ := takes
          have free_slot : (occupancy.step (.poll id)).slot = (occupancy.slot.reserve id).1 := by
            rw [Occupancy.step, if_pos (Or.inl started), pollSlot, if_pos started, granted]
            rfl
          rw [Counter.read, Counter.read, free_slot]
          obtain ⟨_, equation⟩ | ⟨_, free, equation⟩ | ⟨_, _, _, equation⟩ |
            ⟨_, _, _, equation⟩ := occupancy.slot.reserve_cases id <;> rw [equation] at granted ⊢
          · cases granted
          · exact Nat.sub_add_cancel free
          · cases granted
          · cases granted
      | waiting =>
          obtain ⟨not_started, queued, finished⟩ := takes
          refine sound.waiting_of_left after_sound queued ?_
          rw [Occupancy.step, if_pos (Or.inr queued), pollSlot, if_neg not_started]
          cases answer : (occupancy.slot.poll id).2 with
          | granted => rfl
          | failed error => rfl
          | pending => exact absurd answer finished
  | abandon id =>
      cases counter with
      | free => exact takes.elim
      | active => exact takes.elim
      | waiting =>
          obtain ⟨not_started, queued⟩ := takes
          refine sound.waiting_of_left after_sound queued ?_
          rw [Occupancy.step, if_neg not_started, if_pos queued]
  | endLease connection =>
      cases counter with
      | free => exact takes.elim
      | waiting => exact takes.elim
      | active =>
          have leased : connection ∈ occupancy.leased := takes
          have left : (occupancy.step (.endLease connection)).leased =
              occupancy.leased.erase connection := by
            rw [Occupancy.step, if_pos leased]
          rw [Counter.read, Counter.read, after_sound.active_eq, sound.active_eq, left]
          exact List.length_erase_add_one leased

/-- A reservation that is given up loses no permit, also not one that it was assigned. -/
theorem abandon_keeps_permits (sound : occupancy.Sound maxConnections maxWaiters)
    (mem : id ∈ occupancy.queued) :
    (occupancy.step (.abandon id)).slot.free + (occupancy.step (.abandon id)).slot.assigned =
      occupancy.slot.free + occupancy.slot.assigned := by
  have not_started : id ∉ occupancy.started := fun started => sound.not_queued started mem
  have before := sound.balance
  have after := (sound.abandon id).balance
  have same_users : (occupancy.step (.abandon id)).holding = occupancy.holding ∧
      (occupancy.step (.abandon id)).leased = occupancy.leased := by
    rw [Occupancy.step, if_neg not_started, if_pos mem]
    exact ⟨rfl, rfl⟩
  rw [same_users.1, same_users.2] at after
  omega

end Sound

/-- However the users of a slot act, its permits are free, assigned, granted or leased, and none
is lost; it counts the leases that last and the reservations that wait, which are within its
limit; no counter is taken below zero; and a reservation that is given up passes on a permit that
it was assigned. -/
theorem run_conserves_permits (endpoint : Endpoint) (maxConnections maxWaiters : Nat)
    (actions : List Action) :
    let occupancy := (create endpoint maxConnections maxWaiters).run actions
    occupancy.slot.free + occupancy.slot.assigned + occupancy.holding.length +
        occupancy.leased.length = maxConnections ∧
      occupancy.slot.active = occupancy.leased.length ∧
      (occupancy.slot.live.Perm occupancy.leased ∧ occupancy.slot.live.Nodup) ∧
      occupancy.slot.waiting = occupancy.queued.length ∧
      occupancy.slot.waiting ≤ maxWaiters ∧
      (∀ action counter, occupancy.TakesFrom action counter →
        Counter.read (occupancy.step action).slot counter + 1 =
          Counter.read occupancy.slot counter) ∧
      ∀ id ∈ occupancy.queued,
        (occupancy.step (.abandon id)).slot.free + (occupancy.step (.abandon id)).slot.assigned =
          occupancy.slot.free + occupancy.slot.assigned := by
  intro occupancy
  have sound : occupancy.Sound maxConnections maxWaiters :=
    (sound_create endpoint maxConnections maxWaiters).run actions
  have waiting_le := sound.serves.waiting_le
  rw [sound.maxWaiters_eq] at waiting_le
  have live_perm := sound.serves.live_perm
  exact ⟨sound.balance, sound.active_eq,
    ⟨live_perm, live_perm.nodup_iff.mpr sound.leased_distinct⟩, sound.waiting_eq, waiting_le,
    fun _ _ => sound.counts_down, fun _ => sound.abandon_keeps_permits⟩

end Courier.Occupancy
