import Courier.Proofs.Pool.Occupancy

/-!
# Lines in front of a slot

Those in the queue of a slot who were assigned a permit stand before those who wait for one, and no
permit is free while anybody waits.  Whoever comes, is served or gives up, those who have obtained
permits were polled before those who wait.
-/

namespace Courier

namespace Slot

/-- The reservations in the queue that were assigned a permit. -/
def assignees (slot : Slot) : List Nat := (slot.queue.filter (·.assigned)).map (·.id)

/-- The reservations in the queue without a permit, the first one first. -/
def unassigned (slot : Slot) : List Nat := (slot.queue.filter (!·.assigned)).map (·.id)

/-- A queue in which those that were assigned a permit stand before those without one. -/
def lineUp (assignees unassigned : List Nat) : List Reservation :=
  assignees.map (⟨·, true⟩) ++ unassigned.map (⟨·, false⟩)

/-- Nobody in the queue is assigned a permit before one who stands before him, and no permit is
free while one in the queue has none. -/
structure Orderly (slot : Slot) : Prop where
  queue_eq : slot.queue = lineUp slot.assignees slot.unassigned
  none_idle : slot.free = 0 ∨ slot.unassigned = []

variable {slot : Slot} {assignees unassigned : List Nat} {id first : Nat} {rest : List Nat}

theorem assignees_of_lineUp (queue_eq : slot.queue = lineUp assignees unassigned) :
    slot.assignees = assignees := by
  simp [Slot.assignees, queue_eq, lineUp, List.filter_map, Function.comp_def]

theorem unassigned_of_lineUp (queue_eq : slot.queue = lineUp assignees unassigned) :
    slot.unassigned = unassigned := by
  simp [Slot.unassigned, queue_eq, lineUp, List.filter_map, Function.comp_def]

/-- A queue that is lined up is orderly. -/
theorem orderly_of_lineUp (queue_eq : slot.queue = lineUp assignees unassigned)
    (none_idle : slot.free = 0 ∨ unassigned = []) : slot.Orderly := by
  refine ⟨?_, ?_⟩
  · rw [assignees_of_lineUp queue_eq, unassigned_of_lineUp queue_eq, queue_eq]
  · rwa [unassigned_of_lineUp queue_eq]

theorem assignFirst_lineUp (assignees : List Nat) (first : Nat) (rest : List Nat) :
    assignFirst (lineUp assignees (first :: rest)) =
      some (lineUp (assignees ++ [first]) rest) := by
  induction assignees with
  | nil => rfl
  | cons head tail induction =>
      have tail_eq :
          assignFirst (tail.map (⟨·, true⟩) ++ (first :: rest).map (⟨·, false⟩)) =
            some ((tail ++ [first]).map (⟨·, true⟩) ++ rest.map (⟨·, false⟩)) := induction
      simp [lineUp, assignFirst] at tail_eq ⊢
      simp [tail_eq]

theorem assignFirst_assigned (assignees : List Nat) :
    assignFirst (lineUp assignees []) = none := by
  induction assignees with
  | nil => rfl
  | cons head tail induction =>
      have tail_eq : assignFirst (tail.map (⟨·, true⟩) ++ [].map (⟨·, false⟩)) = none := induction
      simp [lineUp, assignFirst] at tail_eq ⊢
      exact tail_eq

theorem filter_lineUp (holds : Nat → Bool) :
    (lineUp assignees unassigned).filter (fun reservation => holds reservation.id) =
      lineUp (assignees.filter holds) (unassigned.filter holds) := by
  simp [lineUp, List.filter_map, Function.comp_def]

theorem giveBack_lineUp (is_open : slot.closed = false)
    (queue_eq : slot.queue = lineUp assignees (first :: rest)) :
    slot.giveBack = { slot with queue := lineUp (assignees ++ [first]) rest } := by
  rw [giveBack, is_open, if_neg Bool.false_ne_true, queue_eq, assignFirst_lineUp]

theorem giveBack_assigned (queue_eq : slot.queue = lineUp assignees []) :
    slot.giveBack = { slot with free := slot.free + 1 } := by
  rw [giveBack, queue_eq, assignFirst_assigned, ite_self]

/-- A permit was set free: it went to the first in the queue who had none, or stays free where
nobody waits for one. -/
inductive TakesBack (before after : Slot) : Prop
  | idle (nobody : before.unassigned = []) (still_nobody : after.unassigned = [])
      (free : after.free = before.free + 1)
  | next (first : Nat) (waited : before.unassigned = first :: after.unassigned)
      (assigned : first ∈ after.assignees) (free : after.free = before.free)

/-- A reservation that leaves the queue leaves its order as it was. -/
theorem Orderly.unqueue (orderly : slot.Orderly) (id : Nat) :
    (slot.unqueue id).queue =
      lineUp (slot.assignees.filter (· != id)) (slot.unassigned.filter (· != id)) := by
  rw [← filter_lineUp, ← orderly.queue_eq]
  rfl

/-- Whoever is in the queue has been assigned a permit or not. -/
theorem Orderly.ids (orderly : slot.Orderly) :
    slot.queue.map (·.id) = slot.assignees ++ slot.unassigned := by
  conv_lhs => rw [orderly.queue_eq]
  simp [lineUp, Function.comp_def]

theorem mem_assignees {reservation : Reservation} (mem : reservation ∈ slot.queue)
    (has_permit : reservation.assigned = true) : reservation.id ∈ slot.assignees :=
  List.mem_map_of_mem (List.mem_filter.mpr ⟨mem, has_permit⟩)

theorem mem_unassigned {reservation : Reservation} (mem : reservation ∈ slot.queue)
    (no_permit : reservation.assigned = false) : reservation.id ∈ slot.unassigned :=
  List.mem_map_of_mem (List.mem_filter.mpr ⟨mem, by simp [no_permit]⟩)

theorem abandon_of_assigned {reservation : Reservation}
    (found : slot.queue.find? (·.id == id) = some reservation)
    (has_permit : reservation.assigned = true) : slot.abandon id = (slot.unqueue id).giveBack := by
  simp [abandon, found, giveBackAssigned, has_permit]

theorem abandon_of_unassigned {reservation : Reservation}
    (found : slot.queue.find? (·.id == id) = some reservation)
    (no_permit : reservation.assigned = false) : slot.abandon id = slot.unqueue id := by
  simp [abandon, found, giveBackAssigned, no_permit]

end Slot

namespace Occupancy

variable {occupancy : Occupancy} {maxConnections maxWaiters id : Nat} {action : Action}

/-- Those who have a permit and no lease yet, noticed or not. -/
def entitled (occupancy : Occupancy) : List Nat := occupancy.slot.assignees ++ occupancy.holding

/-- The reservation that an action polls for the first time. -/
def firstPolled (occupancy : Occupancy) : Action → List Nat
  | .poll id => if id ∈ occupancy.started then [id] else []
  | _ => []

/-- The reservation that an action gives up while it is queued without a permit. -/
def forsaken (occupancy : Occupancy) : Action → List Nat
  | .abandon id => if id ∈ occupancy.slot.unassigned then [id] else []
  | _ => []

/-- The reservation whose first poll neither queues it nor gets it a permit. -/
def refused (occupancy : Occupancy) (action : Action) : List Nat :=
  (occupancy.firstPolled action).filter fun id =>
    id ∉ (occupancy.step action).queued ∧ id ∉ (occupancy.step action).holding

/-- Those who have a permit after an action and had none before. -/
def newlyEntitled (occupancy : Occupancy) (action : Action) : List Nat :=
  (occupancy.step action).entitled.filter (· ∉ occupancy.entitled)

/-- Whether an action sets a permit free: that of a lease, or one that has no lease yet. -/
def Frees (occupancy : Occupancy) : Action → Prop
  | .abandon id => id ∈ occupancy.slot.assignees
  | .dropPermit id => id ∈ occupancy.holding
  | .endLease connection => connection ∈ occupancy.leased
  | _ => False

/-- Those who were polled, in that order, without those who are passed over. -/
def line (polled refused forsaken : List Nat) : List Nat :=
  polled.filter fun id => id ∉ refused ∧ id ∉ forsaken

/-- What an action can make of those who are queued without a permit. -/
inductive Turn : (polled refused forsaken entitled before after : List Nat) → Prop
  | quiet (waiting : List Nat) : Turn [] [] [] [] waiting waiting
  /-- The first one gets a permit. -/
  | served (first : Nat) (rest : List Nat) : Turn [] [] [] [first] (first :: rest) rest
  /-- A newcomer queues behind the others. -/
  | joined (id : Nat) (waiting : List Nat) : Turn [id] [] [] [] waiting (waiting ++ [id])
  /-- A newcomer gets a permit where nobody waits. -/
  | welcomed (id : Nat) : Turn [id] [] [] [id] [] []
  | refused (id : Nat) (waiting : List Nat) : Turn [id] [id] [] [] waiting waiting
  | forsaken (id : Nat) (waiting : List Nat) (mem : id ∈ waiting) :
      Turn [] [] [id] [] waiting (waiting.erase id)

section Turn

variable {polled refused forsaken newPolled newRefused newForsaken newEntitled obtained waiting
  after : List Nat}

theorem line_newcomer (fresh : id ∉ polled) (passed : refused ++ forsaken ⊆ polled) :
    line (polled ++ [id]) refused forsaken = line polled refused forsaken ++ [id] := by
  have not_refused : id ∉ refused := fun mem => fresh (passed (List.mem_append_left _ mem))
  have not_forsaken : id ∉ forsaken := fun mem => fresh (passed (List.mem_append_right _ mem))
  simp [line, not_refused, not_forsaken]

theorem line_refused (fresh : id ∉ polled) :
    line (polled ++ [id]) (refused ++ [id]) forsaken = line polled refused forsaken := by
  calc
    line (polled ++ [id]) (refused ++ [id]) forsaken = line polled (refused ++ [id]) forsaken := by
      simp [line]
    _ = line polled refused forsaken := by
      refine List.filter_congr fun other mem => ?_
      have differ : other ≠ id := fun same => fresh (same ▸ mem)
      simp [differ]

theorem line_forsaken (id : Nat) :
    line polled refused (forsaken ++ [id]) = (line polled refused forsaken).filter (· != id) := by
  rw [line, line, List.filter_filter]
  refine List.filter_congr fun other _ => ?_
  by_cases same : other = id <;> simp [same]

/-- Whatever happens to those who wait, they were polled after those who have obtained permits. -/
theorem Turn.line_eq
    (turn : Turn newPolled newRefused newForsaken newEntitled waiting after)
    (line_eq : line polled refused forsaken = obtained ++ waiting) (distinct : polled.Nodup)
    (passed : refused ++ forsaken ⊆ polled) (fresh : ∀ id ∈ newPolled, id ∉ polled) :
    line (polled ++ newPolled) (refused ++ newRefused) (forsaken ++ newForsaken) =
      obtained ++ newEntitled ++ after := by
  cases turn with
  | quiet => simpa using line_eq
  | served => simpa using line_eq
  | joined id =>
      rw [List.append_nil, List.append_nil, line_newcomer (fresh id (by simp)) passed, line_eq]
      simp
  | welcomed id =>
      rw [List.append_nil, List.append_nil, line_newcomer (fresh id (by simp)) passed, line_eq]
      simp
  | refused id =>
      rw [List.append_nil, line_refused (fresh id (by simp)), line_eq]
      simp
  | forsaken id _ mem =>
      have nodup : (obtained ++ waiting).Nodup := line_eq ▸ distinct.filter _
      obtain ⟨_, waiting_nodup, apart⟩ := List.nodup_append.mp nodup
      have not_obtained : obtained.filter (· != id) = obtained :=
        List.filter_eq_self.mpr fun other obtained => by simpa using apart other obtained id mem
      rw [List.append_nil, List.append_nil, line_forsaken, line_eq, List.filter_append,
        not_obtained, ← waiting_nodup.erase_eq_filter]
      simp

/-- At most one newcomer comes at a time, and only newcomers and those who wait are passed over. -/
theorem Turn.newcomers (turn : Turn newPolled newRefused newForsaken newEntitled waiting after) :
    newPolled.Nodup ∧ newRefused ⊆ newPolled ∧ newForsaken ⊆ waiting := by
  cases turn <;> simp_all

end Turn

end Occupancy

end Courier
