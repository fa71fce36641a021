import Courier.Proofs.Clientele.Changes

/-!
# How closes of contexts come along

Only the call that takes the close hooks of a context closes it.  A hook that was taken waits until
it was run; the call returns when none is left.
-/

namespace Courier.Clientele

variable {clientele after : Clientele} {home later : Home} {hook : CloseHook Hook} {id : Nat}

/-- A context after a change: of the hooks that its close has to run only spent ones are missing. -/
structure Home.Stays (clientele : Clientele) (home later : Home) : Prop where
  id : later.id = home.id
  closed : later.context.closed = home.context.closed
  unrun : later.unrun ⊆ home.unrun
  waits : ∀ hook ∈ home.unrun, hook ∈ later.unrun ∨ clientele.Spent hook
  stopping : later.context.stopping = true →
    home.context.stopping = true ∨ home.context.closed = true ∧ home.unrun = []

theorem Home.Stays.of_progress (same : later.progress = home.progress) :
    Home.Stays clientele home later := by
  obtain ⟨same_id, same_closed, same_stopping, same_unrun⟩ := Home.of_progress same
  refine ⟨same_id, same_closed, fun hook mem => same_unrun ▸ mem,
    fun hook mem => Or.inl (same_unrun.symm ▸ mem), fun stopping => Or.inl ?_⟩
  exact same_stopping.symm.trans stopping

/-- Contexts after a change: those from before, and perhaps new ones whose close has not begun. -/
structure HomesStay (clientele after : Clientele) : Prop where
  later : ∀ home ∈ clientele.homes, ∃ later ∈ after.homes, Home.Stays clientele home later
  before : ∀ later ∈ after.homes, (later.context.closed = false ∧ later.context.stopping = false ∧
    later.unrun = []) ∨ ∃ home ∈ clientele.homes, Home.Stays clientele home later

theorem HomesStay.of_progress
    (same : after.homes.map Home.progress = clientele.homes.map Home.progress) :
    HomesStay clientele after := by
  refine ⟨fun home mem => ?_, fun later mem => Or.inr ?_⟩
  · obtain ⟨later, later_mem, same_progress⟩ := exists_of_progress same mem
    exact ⟨later, later_mem, .of_progress same_progress⟩
  · obtain ⟨home, home_mem, same_progress⟩ := exists_of_progress same.symm mem
    exact ⟨home, home_mem, .of_progress same_progress.symm⟩

theorem HomesStay.of_update {change : Home → Home}
    (stays : ∀ home ∈ clientele.homes, home.id = id → Home.Stays clientele home (change home)) :
    HomesStay clientele (clientele.updateHome id change) := by
  have updated : ∀ home ∈ clientele.homes,
      Home.Stays clientele home (if home.id == id then change home else home) := by
    intro home mem
    split
    · rename_i same
      exact stays home mem (beq_iff_eq.mp same)
    · exact .of_progress rfl
  refine ⟨fun home mem => ⟨_, List.mem_map_of_mem mem, updated home mem⟩, fun later mem => ?_⟩
  obtain ⟨home, home_mem, rfl⟩ := List.mem_map.mp mem
  exact Or.inr ⟨home, home_mem, updated home home_mem⟩

theorem Change.homesStay (change : clientele.Change after) (identified : clientele.Identified) :
    HomesStay clientele after := by
  cases change with
  | start kind =>
      refine ⟨fun home mem => ⟨home, List.mem_append_left _ mem, .of_progress rfl⟩, ?_⟩
      intro later mem
      rcases List.mem_append.mp mem with before | here
      · exact Or.inr ⟨later, before, .of_progress rfl⟩
      · rw [List.mem_singleton.mp here]
        exact Or.inl ⟨rfl, rfl, rfl⟩
  | addHook context => exact .of_progress (updateHome_progress _ fun _ => rfl)
  | removeHook context hook =>
      refine .of_progress (updateHome_progress _ fun home => ?_)
      split <;> rfl
  | popHook mem unrun spent =>
      refine .of_update fun other other_mem same => ?_
      rw [identified.eq_of_home other_mem mem same]
      refine ⟨rfl, rfl, unrun ▸ List.subset_cons_self _ _, fun waiting waiting_mem => ?_, Or.inl⟩
      rcases List.mem_cons.mp (unrun ▸ waiting_mem) with rfl | rest
      · exact Or.inr spent
      · exact Or.inl rest
  | endClose mem closed unrun =>
      refine .of_update fun other other_mem same => ?_
      rw [identified.eq_of_home other_mem mem same]
      exact ⟨rfl, rfl, fun _ listed => listed, fun _ listed => Or.inl listed,
        fun _ => Or.inr ⟨closed, unrun⟩⟩
  | enter opened found => exact .of_progress (map_progress _ fun home => home.joinedBy_progress _)
  | close mem present opened => exact .of_progress (part_progress _ _ _)
  | note harmless => exact .of_progress rfl
  | hold referenced clients => exact .of_progress rfl
  | release mem =>
      exact .of_progress (foldl_reap_same (·.homes.map Home.progress) letGo_progress _ _)
  | replace mem referenced =>
      exact .of_progress (foldl_reap_same (·.homes.map Home.progress) letGo_progress _ _)

/-- The close of a context has nothing to run before it begins and after it has ended. -/
structure Home.Paced (home : Home) : Prop where
  idle : home.context.closed = false → home.unrun = []
  ended : home.context.stopping = true → home.context.closed = true ∧ home.unrun = []

theorem Home.Stays.paced (stays : Home.Stays clientele home later) (paced : home.Paced) :
    later.Paced := by
  have none_left : home.unrun = [] → later.unrun = [] := fun none =>
    List.subset_nil.mp (none ▸ stays.unrun)
  constructor
  case idle =>
    intro opened
    exact none_left (paced.idle (stays.closed.symm.trans opened))
  case ended =>
    intro stopping
    have ended : home.context.closed = true ∧ home.unrun = [] :=
      (stays.stopping stopping).elim paced.ended fun ending => ending
    exact ⟨stays.closed.trans ended.1, none_left ended.2⟩

theorem HomesStay.paced (stay : HomesStay clientele after)
    (paced : ∀ home ∈ clientele.homes, home.Paced) : ∀ later ∈ after.homes, later.Paced := by
  intro later mem
  rcases stay.before later mem with ⟨_, not_stopping, none⟩ | ⟨home, home_mem, stays⟩
  · refine ⟨fun _ => none, fun stopping => ?_⟩
    rw [not_stopping] at stopping
    cases stopping
  · exact stays.paced (paced home home_mem)

theorem takeHooks_paced (paced : ∀ home ∈ clientele.homes, home.Paced)
    (opened : home.context.closed = false) (mem : home ∈ clientele.homes) :
    ∀ later ∈ (clientele.takeHooks home).homes, later.Paced := by
  intro later later_mem
  obtain ⟨other, other_mem, rfl⟩ := List.mem_map.mp later_mem
  split
  · refine ⟨fun still_open => (nomatch still_open), fun stopping => ?_⟩
    rw [((paced home mem).ended stopping).1] at opened
    cases opened
  · exact paced other other_mem

end Courier.Clientele
