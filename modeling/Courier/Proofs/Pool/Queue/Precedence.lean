import Courier.Proofs.Pool.Queue.Actions

/-!
# First come, first served

The users of a slot are watched: in which order its reservations are polled for the first time, and
in which order they obtain permits.  While the slot is open the two orders are the same.  Only those
are passed over that were refused, or given up before they had a permit.
-/

namespace Courier.Occupancy

variable {occupancy : Occupancy} {maxConnections maxWaiters id : Nat} {action : Action}

/-- The users of a slot, and in which order they came and were served. -/
structure Watch where
  occupancy : Occupancy
  /-- Reservations in the order of their first polls. -/
  polled : List Nat := []
  /-- Those whose first poll failed. -/
  refused : List Nat := []
  /-- Those who were given up while they were queued without a permit. -/
  forsaken : List Nat := []
  /-- Those who have ever had a permit, in the order in which they obtained it. -/
  obtained : List Nat := []

namespace Watch

def step (watch : Watch) (action : Action) : Watch where
  occupancy := watch.occupancy.step action
  polled := watch.polled ++ watch.occupancy.firstPolled action
  refused := watch.refused ++ watch.occupancy.refused action
  forsaken := watch.forsaken ++ watch.occupancy.forsaken action
  obtained := watch.obtained ++ watch.occupancy.newlyEntitled action

def run (watch : Watch) (actions : List Action) : Watch := actions.foldl step watch

structure Fair (watch : Watch) : Prop where
  orderly : watch.occupancy.slot.Orderly
  /-- Those who have obtained permits have come before those who wait, and in that order. -/
  line_eq : line watch.polled watch.refused watch.forsaken =
    watch.obtained ++ watch.occupancy.slot.unassigned
  polled_nodup : watch.polled.Nodup
  passed_polled : watch.refused ++ watch.forsaken ⊆ watch.polled
  started_unpolled : ∀ id ∈ watch.occupancy.started, id ∉ watch.polled
  polled_lt : ∀ id ∈ watch.polled, id < watch.occupancy.next
  entitled_obtained : watch.occupancy.entitled ⊆ watch.obtained

variable {watch : Watch}

theorem Fair.line_nodup (fair : watch.Fair) :
    (watch.obtained ++ watch.occupancy.slot.unassigned).Nodup := by
  rw [← fair.line_eq]
  exact fair.polled_nodup.filter _

theorem Fair.line_polled (fair : watch.Fair) :
    watch.obtained ++ watch.occupancy.slot.unassigned ⊆ watch.polled := by
  rw [← fair.line_eq]
  exact List.filter_subset_self _

theorem Fair.apart (fair : watch.Fair) : watch.occupancy.Apart := by
  intro id mem entitled
  have obtained := fair.entitled_obtained entitled
  rcases List.mem_append.mp mem with started | unassigned
  · exact fair.started_unpolled id started (fair.line_polled (List.mem_append_left _ obtained))
  · exact (List.nodup_append.mp fair.line_nodup).2.2 id obtained id unassigned rfl

theorem Fair.step (fair : watch.Fair) (sound : watch.occupancy.Sound maxConnections maxWaiters)
    (still_open : (watch.step action).occupancy.slot.closed = false) :
    (watch.step action).Fair := by
  have proceeds := sound.proceeds fair.orderly fair.apart still_open
  have newcomer : ∀ id ∈ watch.occupancy.firstPolled action,
      id ∈ watch.occupancy.started ∧ id ∉ (watch.step action).occupancy.started :=
    fun id mem => newcomer_started sound mem
  have fresh : ∀ id ∈ watch.occupancy.firstPolled action, id ∉ watch.polled :=
    fun id mem => fair.started_unpolled id (newcomer id mem).1
  refine ⟨proceeds.orderly,
    proceeds.turn.line_eq fair.line_eq fair.polled_nodup fair.passed_polled fresh,
    ?_, ?_, ?_, ?_, ?_⟩
  · obtain ⟨newcomers_nodup, _, _⟩ := proceeds.turn.newcomers
    exact List.nodup_append.mpr ⟨fair.polled_nodup, newcomers_nodup,
      fun id before other now same => fresh other now (same ▸ before)⟩
  · obtain ⟨_, refused_subset, forsaken_subset⟩ := proceeds.turn.newcomers
    obtain ⟨refused_polled, forsaken_polled⟩ := List.append_subset.mp fair.passed_polled
    have waiting_polled := (List.append_subset.mp fair.line_polled).2
    refine List.append_subset.mpr
      ⟨List.append_subset.mpr ⟨?_, ?_⟩, List.append_subset.mpr ⟨?_, ?_⟩⟩
    · exact List.subset_append_of_subset_left _ refused_polled
    · exact List.subset_append_of_subset_right _ refused_subset
    · exact List.subset_append_of_subset_left _ forsaken_polled
    · exact List.subset_append_of_subset_left _ (List.Subset.trans forsaken_subset waiting_polled)
  · intro id started polled
    rcases List.mem_append.mp polled with before | now
    · rcases List.mem_cons.mp (step_started _ action started) with rfl | started_before
      · exact Nat.lt_irrefl _ (fair.polled_lt _ before)
      · exact fair.started_unpolled id started_before before
    · exact (newcomer id now).2 started
  · intro id polled
    have before : id < watch.occupancy.next := by
      rcases List.mem_append.mp polled with before | now
      · exact fair.polled_lt id before
      · exact sound.below id (List.mem_append_left _ (newcomer id now).1)
    exact Nat.lt_of_lt_of_le before (step_next _ action)
  · intro id entitled
    by_cases before : id ∈ watch.occupancy.entitled
    · exact List.mem_append_left _ (fair.entitled_obtained before)
    · exact List.mem_append_right _ (List.mem_filter.mpr ⟨entitled, by simpa using before⟩)

/-- A slot that nobody has used is watched from now on. -/
def start (endpoint : Endpoint) (maxConnections maxWaiters : Nat) : Watch where
  occupancy := create endpoint maxConnections maxWaiters

theorem fair_start (endpoint : Endpoint) (maxConnections maxWaiters : Nat) :
    (start endpoint maxConnections maxWaiters).Fair where
  orderly := ⟨rfl, .inr rfl⟩
  line_eq := rfl
  polled_nodup := .nil
  passed_polled := List.nil_subset _
  started_unpolled := nofun
  polled_lt := nofun
  entitled_obtained := List.nil_subset _

theorem run_occupancy (watch : Watch) (actions : List Action) :
    (watch.run actions).occupancy = watch.occupancy.run actions := by
  induction actions generalizing watch with
  | nil => rfl
  | cons action rest induction => exact induction (watch.step action)

theorem open_of_run {actions : List Action}
    (still_open : (watch.run actions).occupancy.slot.closed = false) :
    watch.occupancy.slot.closed = false := by
  induction actions generalizing watch with
  | nil => exact still_open
  | cons action rest induction => exact (open_of_step (induction still_open)).1

theorem Fair.run (fair : watch.Fair) (sound : watch.occupancy.Sound maxConnections maxWaiters)
    {actions : List Action} (still_open : (watch.run actions).occupancy.slot.closed = false) :
    (watch.run actions).Fair := by
  induction actions generalizing watch with
  | nil => exact fair
  | cons action rest induction =>
      exact induction (fair.step sound (open_of_run still_open)) (sound.step action) still_open

/-- Nobody obtains a permit while one who was polled before waits for his. -/
theorem Fair.no_overtaking (fair : watch.Fair) {earlier later : Nat}
    (order : [earlier, later].Sublist watch.polled) (obtained : later ∈ watch.obtained) :
    earlier ∉ watch.occupancy.slot.unassigned := by
  intro waits
  have in_line : ∀ id, id ∈ watch.obtained ++ watch.occupancy.slot.unassigned →
      id ∉ watch.refused ∧ id ∉ watch.forsaken := by
    intro id mem
    rw [← fair.line_eq] at mem
    simpa using (List.mem_filter.mp mem).2
  have kept : [earlier, later].Sublist (watch.obtained ++ watch.occupancy.slot.unassigned) := by
    have both := order.filter fun id => id ∉ watch.refused ∧ id ∉ watch.forsaken
    have earlier_kept := in_line earlier (List.mem_append_right _ waits)
    have later_kept := in_line later (List.mem_append_left _ obtained)
    rw [List.filter_cons_of_pos (by simpa using earlier_kept),
      List.filter_cons_of_pos (by simpa using later_kept)] at both
    rw [← fair.line_eq]
    exact both
  have apart := (List.nodup_append.mp fair.line_nodup).2.2
  obtain ⟨served, waiting, split, served_sublist, waiting_sublist⟩ :=
    List.sublist_append_iff.mp kept
  cases served with
  | nil =>
      have later_waits : later ∈ waiting := by
        rw [← List.nil_append waiting, ← split]
        simp
      exact apart later obtained later (waiting_sublist.subset later_waits) rfl
  | cons first rest =>
      obtain ⟨rfl, _⟩ := List.cons.inj split
      exact apart earlier (served_sublist.subset List.mem_cons_self) earlier waits rfl

end Watch

/-- The next poll of a queued reservation tells whether it has been assigned a permit. -/
theorem Sound.poll_answer (sound : occupancy.Sound maxConnections maxWaiters)
    (orderly : occupancy.slot.Orderly) (is_open : occupancy.slot.closed = false)
    (queued : id ∈ occupancy.queued) :
    (occupancy.slot.poll id).2 =
      if id ∈ occupancy.slot.unassigned then .pending else .granted := by
  obtain ⟨reservation, rfl, found, _, _⟩ :=
    (sound.serves_queued queued).find_reservation sound.queued_distinct
  have mem := List.mem_of_find?_eq_some found
  obtain ⟨closed, _⟩ | ⟨_, has_permit, poll_eq⟩ | ⟨_, no_permit, poll_eq⟩ := Slot.poll_cases found
  · exact absurd is_open (by simp [closed])
  · have assigned := Slot.mem_assignees mem has_permit
    have not_unassigned : reservation.id ∉ occupancy.slot.unassigned := fun unassigned =>
      (List.nodup_append.mp (queue_distinct sound orderly)).2.2 _ assigned _ unassigned rfl
    rw [poll_eq, if_neg not_unassigned]
  · rw [poll_eq, if_pos (Slot.mem_unassigned mem no_permit)]

/-- While a slot is open, permits are obtained in the order of first polls.  Only those are passed
over that were refused, or given up before they had a permit; so nobody who was polled later, not
even one who finds a permit free, obtains one while an earlier one waits for his.  No permit is free
while anybody waits for one, and a permit that is set free goes to the first who waits. -/
theorem run_serves_in_order (endpoint : Endpoint) (maxConnections maxWaiters : Nat)
    (actions : List Action) :
    let watch := (Watch.start endpoint maxConnections maxWaiters).run actions
    let occupancy := watch.occupancy
    occupancy = (create endpoint maxConnections maxWaiters).run actions ∧
    (occupancy.slot.closed = false →
      (∀ id ∈ occupancy.queued, (occupancy.slot.poll id).2 =
        if id ∈ occupancy.slot.unassigned then .pending else .granted) ∧
      watch.polled.Nodup ∧
      line watch.polled watch.refused watch.forsaken =
        watch.obtained ++ occupancy.slot.unassigned ∧
      (∀ earlier later, [earlier, later].Sublist watch.polled → later ∈ watch.obtained →
        earlier ∉ occupancy.slot.unassigned) ∧
      (occupancy.slot.free = 0 ∨ occupancy.slot.unassigned = []) ∧
      ∀ action, occupancy.Frees action →
        occupancy.slot.TakesBack (occupancy.step action).slot) := by
  intro watch occupancy
  have runs : occupancy = (create endpoint maxConnections maxWaiters).run actions :=
    Watch.run_occupancy _ actions
  refine ⟨runs, fun is_open => ?_⟩
  have created := sound_create endpoint maxConnections maxWaiters
  have sound : occupancy.Sound maxConnections maxWaiters := runs ▸ created.run actions
  have fair : watch.Fair :=
    (Watch.fair_start endpoint maxConnections maxWaiters).run created is_open
  refine ⟨fun id => sound.poll_answer fair.orderly is_open, fair.polled_nodup, fair.line_eq,
    fun earlier later => fair.no_overtaking, fair.orderly.none_idle, ?_⟩
  intro action frees
  have not_close : action ≠ .close := by
    rintro rfl
    exact frees
  have still_open : (occupancy.step action).slot.closed = false :=
    (congrArg Slot.Terms.closed (step_terms not_close)).trans is_open
  exact (sound.proceeds fair.orderly fair.apart still_open).takesBack frees

/-- A slot with one permit: the second reservation is given up with the permit of the first, the
fourth finds the queue full, and the third is served before the fifth. -/
theorem third_served_before_fifth :
    let actions : List Action :=
      [.start, .poll 0, .start, .poll 1, .start, .poll 2, .start, .poll 3, .dropPermit 0,
        .abandon 1, .start, .poll 4]
    let watch := (Watch.start ⟨"h", 80, false⟩ 1 2).run actions
    watch.occupancy.slot.closed = false ∧ watch.polled = [0, 1, 2, 3, 4] ∧ watch.refused = [3] ∧
      watch.obtained = [0, 1, 2] ∧ watch.occupancy.slot.unassigned = [4] ∧
      line watch.polled watch.refused watch.forsaken =
        watch.obtained ++ watch.occupancy.slot.unassigned ∧
      watch.occupancy.Frees (.abandon 2) ∧
      watch.occupancy.slot.TakesBack (watch.occupancy.step (.abandon 2)).slot := by
  intro actions watch
  have is_open : watch.occupancy.slot.closed = false := by decide
  have frees : watch.occupancy.Frees (.abandon 2) := by
    change 2 ∈ watch.occupancy.slot.assignees
    decide
  obtain ⟨_, _, line_eq, _, _, takesBack⟩ :=
    (run_serves_in_order ⟨"h", 80, false⟩ 1 2 actions).2 is_open
  exact ⟨is_open, by decide, by decide, by decide, by decide, line_eq, frees,
    takesBack (.abandon 2) frees⟩

end Courier.Occupancy
