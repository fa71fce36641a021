import Courier.Proofs.Driver.Sound

/-!
# Close hooks

The hooks that stand when a context is closed for the first time run once each, in the order of
their registration, and no hook runs otherwise.
-/

namespace Courier.Driver

variable {driver now : Driver} {event : Event} {history earlier later : List Event} {hook : Nat}

/-! ## Hooks in a record -/

/-- The hooks that were registered and neither removed nor taken by a close, in the order of their
registration. -/
def standing : List Event → List Nat
  | [] => []
  | .registered hook :: earlier => standing earlier ++ [hook]
  | .removed hook true :: earlier => (standing earlier).filter (· != hook)
  | .close true :: _ => []
  | _ :: earlier => standing earlier

/-- The hooks that stood when the context was closed. -/
def taken : List Event → List Nat
  | [] => []
  | .close true :: earlier => standing earlier
  | _ :: earlier => taken earlier

def Event.ran? : Event → Option Nat
  | .ranHook hook => some hook
  | _ => none

/-- The hooks that have run, the latest first. -/
def ranHooks (history : List Event) : List Nat := history.filterMap Event.ran?

def Event.removed? : Event → Option Nat
  | .removed hook true => some hook
  | _ => none

/-- The hooks whose removal has succeeded. -/
def removedHooks (history : List Event) : List Nat := history.filterMap Event.removed?

@[simp] theorem ranHooks_ranHook (hook : Nat) (history : List Event) :
    ranHooks (.ranHook hook :: history) = hook :: ranHooks history := rfl

@[simp] theorem ranHooks_close (first : Bool) (history : List Event) :
    ranHooks (.close first :: history) = ranHooks history := rfl

@[simp] theorem removedHooks_registered (hook : Nat) (history : List Event) :
    removedHooks (.registered hook :: history) = removedHooks history := rfl

@[simp] theorem removedHooks_removed (hook : Nat) (history : List Event) :
    removedHooks (.removed hook true :: history) = hook :: removedHooks history := rfl

@[simp] theorem removedHooks_close (first : Bool) (history : List Event) :
    removedHooks (.close first :: history) = removedHooks history := rfl

/-- Whether an event has to do with hooks. -/
def Event.ofHooks : Event → Bool
  | .registered _ | .removed _ true | .close true | .ranHook _ | .hookPanicked _ => true
  | _ => false

/-- What a record says about hooks. -/
structure SameHooks (earlier later : List Event) : Prop where
  standing_eq : standing later = standing earlier
  taken_eq : taken later = taken earlier
  ran_eq : ranHooks later = ranHooks earlier
  removed_eq : removedHooks later = removedHooks earlier
  calm_iff : Calm later ↔ Calm earlier

theorem SameHooks.refl (history : List Event) : SameHooks history history :=
  ⟨rfl, rfl, rfl, rfl, .rfl⟩

theorem sameHooks_cons (other : event.ofHooks = false) (history : List Event) :
    SameHooks history (event :: history) := by
  have calm_iff : Calm (event :: history) ↔ Calm history := by
    refine calm_cons ?_
    rintro hook rfl
    cases other
  cases event with
  | registered hook => cases other
  | ranHook hook => cases other
  | hookPanicked hook => cases other
  | close first =>
      cases first with
      | false => exact ⟨rfl, rfl, rfl, rfl, calm_iff⟩
      | true => cases other
  | removed hook found =>
      cases found with
      | false => exact ⟨rfl, rfl, rfl, rfl, calm_iff⟩
      | true => cases other
  | _ => exact ⟨rfl, rfl, rfl, rfl, calm_iff⟩

theorem SameHooks.trans {last : List Event} (first : SameHooks earlier later)
    (second : SameHooks later last) : SameHooks earlier last where
  standing_eq := second.standing_eq.trans first.standing_eq
  taken_eq := second.taken_eq.trans first.taken_eq
  ran_eq := second.ran_eq.trans first.ran_eq
  removed_eq := second.removed_eq.trans first.removed_eq
  calm_iff := second.calm_iff.trans first.calm_iff

theorem sameHooks_append (others : ∀ event ∈ later, event.ofHooks = false) :
    SameHooks history (later ++ history) := by
  induction later with
  | nil => exact .refl _
  | cons event later induction =>
      have rest := induction fun event event_mem => others event (List.mem_cons_of_mem _ event_mem)
      exact rest.trans (sameHooks_cons (others event List.mem_cons_self) _)

/-- Only a close takes hooks. -/
theorem taken_of_open (still_open : .close true ∉ history) : taken history = [] := by
  induction history with
  | nil => rfl
  | cons event earlier induction =>
      have before : taken earlier = [] := induction fun closed =>
        still_open (List.mem_cons_of_mem event closed)
      cases event with
      | close first =>
          cases first with
          | false => exact before
          | true => exact absurd List.mem_cons_self still_open
      | _ => exact before

/-! ## The invariant -/

/-- The hooks that the close under way has still to run. -/
def unrun (driver : Driver) : List Nat :=
  driver.closing.elim [] fun closing => closing.left.map (·.id)

/-- The hooks that a record knows of: they stand, were taken or were removed. -/
def knownHooks (history : List Event) : List Nat :=
  standing history ++ (taken history ++ removedHooks history)

/-- The hooks of a context are those that stand, and those taken have run or are still to run,
unless a hook has panicked.  No hook is known twice. -/
structure Hooked (driver : Driver) : Prop where
  hooks_eq : driver.context.hooks.map (·.id) = standing driver.history
  in_order : (ranHooks driver.history).reverse ++ driver.unrun <+: taken driver.history
  taken_eq : Calm driver.history →
    taken driver.history = (ranHooks driver.history).reverse ++ driver.unrun
  known_nodup : (knownHooks driver.history).Nodup
  known_lt : ∀ hook ∈ knownHooks driver.history, hook < driver.next

theorem hooked_start (kind : ContextKind) : (start kind).Hooked where
  hooks_eq := rfl
  in_order := List.prefix_rfl
  taken_eq := fun _ => rfl
  known_nodup := List.nodup_nil
  known_lt := by simp [start, knownHooks, standing, taken, removedHooks]

/-- What does not touch hooks keeps the invariant. -/
theorem Hooked.of_same (hooked : driver.Hooked) (same : SameHooks driver.history now.history)
    (hooks_eq : now.context.hooks = driver.context.hooks)
    (closing_eq : now.closing = driver.closing) (next_le : driver.next ≤ now.next) :
    now.Hooked := by
  obtain ⟨standing_eq, taken_eq, ran_eq, removed_eq, calm_iff⟩ := same
  have known_eq : knownHooks now.history = knownHooks driver.history := by
    simp [knownHooks, standing_eq, taken_eq, removed_eq]
  constructor
  · rw [hooks_eq, standing_eq, hooked.hooks_eq]
  · rw [taken_eq, ran_eq, unrun, closing_eq]
    exact hooked.in_order
  · rw [taken_eq, ran_eq, unrun, closing_eq, calm_iff]
    exact hooked.taken_eq
  · rw [known_eq]
    exact hooked.known_nodup
  · intro hook hook_mem
    rw [known_eq] at hook_mem
    exact Nat.lt_of_lt_of_le (hooked.known_lt hook hook_mem) next_le

/-! ## Registering and removing -/

theorem knownHooks_registered (hook : Nat) (history : List Event) :
    (knownHooks (.registered hook :: history)).Perm (hook :: knownHooks history) := by
  simp [knownHooks, standing, taken]

theorem Hooked.addHook (hooked : driver.Hooked) : driver.addHook.Hooked := by
  have known_lt := hooked.known_lt
  have known_perm := knownHooks_registered driver.next driver.history
  constructor
  · simp [Driver.addHook, Driver.note, Context.addHook, standing, hooked.hooks_eq]
  · exact hooked.in_order
  · exact fun calm => hooked.taken_eq ((calm_cons (by simp)).mp calm)
  · apply known_perm.nodup_iff.mpr
    refine List.nodup_cons.mpr ⟨fun again => ?_, hooked.known_nodup⟩
    exact Nat.lt_irrefl _ (known_lt _ again)
  · intro hook hook_mem
    change hook < driver.next + 1
    rcases List.mem_cons.mp (known_perm.mem_iff.mp hook_mem) with rfl | before
    · omega
    · have hook_lt := known_lt hook before
      omega

/-- A removal succeeds exactly for a hook that stands. -/
theorem Hooked.removes_iff (hooked : driver.Hooked) (hook : Nat) :
    (driver.context.removeHook hook).2 = true ↔ hook ∈ standing driver.history := by
  rw [← hooked.hooks_eq]
  simp [Context.removeHook]

/-- A hook that is removed no longer stands and is known as removed. -/
theorem knownHooks_removed (stands : hook ∈ standing history)
    (known_nodup : (knownHooks history).Nodup) :
    (knownHooks (.removed hook true :: history)).Perm (knownHooks history) := by
  have standing_nodup := (List.nodup_append.mp known_nodup).1
  have standing_perm := List.perm_cons_erase stands
  rw [standing_nodup.erase_eq_filter] at standing_perm
  have kept := standing_perm.symm.append_right (taken history ++ removedHooks history)
  have moved : ((standing history).filter (· != hook) ++ taken history ++
      hook :: removedHooks history).Perm
      (hook :: ((standing history).filter (· != hook) ++ taken history ++
        removedHooks history)) := List.perm_middle
  rw [List.append_assoc, List.append_assoc] at moved
  exact moved.trans kept

theorem Hooked.removeHook (hooked : driver.Hooked) (hook : Nat) :
    (driver.removeHook hook).Hooked := by
  have removes_iff := hooked.removes_iff hook
  have hooks_eq : (driver.removeHook hook).context.hooks.map (·.id) =
      (standing driver.history).filter (· != hook) := by
    rw [← hooked.hooks_eq, List.filter_map]
    rfl
  have history_eq : (driver.removeHook hook).history =
      .removed hook (driver.context.removeHook hook).2 :: driver.history := rfl
  have calm_iff : Calm (driver.removeHook hook).history ↔ Calm driver.history :=
    calm_cons (by simp)
  cases found : (driver.context.removeHook hook).2 with
  | false =>
      rw [found] at removes_iff history_eq
      have stays : (standing driver.history).filter (· != hook) = standing driver.history := by
        rw [List.filter_eq_self]
        rintro other other_mem
        have other_ne : other ≠ hook := fun same =>
          Bool.noConfusion (removes_iff.mpr (same ▸ other_mem))
        simpa using other_ne
      rw [stays] at hooks_eq
      refine ⟨?_, ?_, fun calm => ?_, ?_, ?_⟩ <;> rw [history_eq]
      · exact hooks_eq
      · exact hooked.in_order
      · exact hooked.taken_eq (calm_iff.mp calm)
      · exact hooked.known_nodup
      · exact hooked.known_lt
  | true =>
      rw [found] at removes_iff history_eq
      have known_perm := knownHooks_removed (removes_iff.mp rfl) hooked.known_nodup
      refine ⟨?_, ?_, fun calm => ?_, ?_, ?_⟩ <;> rw [history_eq]
      · exact hooks_eq
      · exact hooked.in_order
      · exact hooked.taken_eq (calm_iff.mp calm)
      · exact known_perm.nodup_iff.mpr hooked.known_nodup
      · intro other other_mem
        exact hooked.known_lt other (known_perm.mem_iff.mp other_mem)

/-! ## Closing -/

/-- A close goes on with the hooks that are left. -/
theorem Hooked.runHooks (hooked : driver.Hooked) {now : Closing}
    (closing : driver.closing = some now) : (driver.runHooks now.caller now.left).Hooked := by
  have in_order := hooked.in_order
  have taken_eq := hooked.taken_eq
  have left : driver.unrun = now.left.map (·.id) := by rw [unrun, closing, Option.elim_some]
  rw [left] at in_order taken_eq
  cases hooks : now.left with
  | nil =>
      rw [hooks] at in_order taken_eq
      exact ⟨hooked.hooks_eq, in_order, fun calm => taken_eq ((calm_cons (by simp)).mp calm),
        hooked.known_nodup, hooked.known_lt⟩
  | cons hook rest =>
      rw [hooks] at in_order taken_eq
      refine ⟨hooked.hooks_eq, ?_, fun calm => ?_, hooked.known_nodup, hooked.known_lt⟩
      · simpa [Driver.runHooks, Driver.note, taken, unrun] using in_order
      · have before := taken_eq ((calm_cons (by simp)).mp calm)
        simpa [Driver.runHooks, Driver.note, taken, unrun] using before

/-- The hooks that are left by a hook that panics do not run. -/
theorem Hooked.panic (hooked : driver.Hooked) (hook : Nat) :
    { driver.note (.hookPanicked hook) with closing := none }.Hooked where
  hooks_eq := hooked.hooks_eq
  in_order := by
    rw [unrun, Option.elim_none, List.append_nil]
    exact (List.prefix_append _ _).trans hooked.in_order
  taken_eq := fun calm => absurd List.mem_cons_self (calm hook)
  known_nodup := hooked.known_nodup
  known_lt := hooked.known_lt

/-- The first close takes all hooks that stand. -/
theorem Hooked.close (hooked : driver.Hooked) (sound : driver.Sound) (caller : Caller) :
    (driver.close caller).Hooked := by
  cases closed : driver.context.closed with
  | true =>
      rw [close_again closed]
      exact hooked.of_same (sameHooks_cons rfl _) rfl rfl (Nat.le_refl _)
  | false =>
      rw [close_eq closed]
      have still_open : .close true ∉ driver.history := fun before =>
        Bool.noConfusion (closed.symm.trans (sound.flagged.closed_iff.mpr before))
      have nothing := taken_of_open still_open
      have none_ran : ranHooks driver.history = [] := by
        have in_order := hooked.in_order
        rw [nothing, List.prefix_nil] at in_order
        simpa using (List.append_eq_nil_iff.mp in_order).1
      have known_eq : knownHooks (.close true :: driver.history) = knownHooks driver.history := by
        simp [knownHooks, standing, taken, nothing]
      have taken_eq : taken (.close true :: driver.history) =
          (ranHooks (.close true :: driver.history)).reverse ++
            driver.context.hooks.map (·.id) := by
        simp [taken, none_ran, hooked.hooks_eq]
      exact
        { hooks_eq := rfl
          in_order := taken_eq ▸ List.prefix_rfl
          taken_eq := fun _ => taken_eq
          known_nodup := known_eq ▸ hooked.known_nodup
          known_lt := known_eq ▸ hooked.known_lt }

/-! ## Steps -/

def Action.isAdvance : Action → Bool
  | .advance => true
  | _ => false

/-- What an action does to hooks: it registers or removes one, takes those that stand, lets the
close under way go on or break off, or leaves all as they are. -/
inductive Touches (driver : Driver) (action : Action) : Driver → Prop where
  | nothing {now : Driver} (same : SameHooks driver.history now.history)
      (hooks_eq : now.context.hooks = driver.context.hooks)
      (closed_eq : now.context.closed = driver.context.closed)
      (closing_eq : now.closing = driver.closing) (next_le : driver.next ≤ now.next)
      (at_rest : action.isAdvance = true → driver.closing = none) : Touches driver action now
  | register (advances_not : action.isAdvance = false) : Touches driver action driver.addHook
  | remove (advances_not : action.isAdvance = false) (hook : Nat) :
      Touches driver action (driver.removeHook hook)
  | take (advances_not : action.isAdvance = false) (caller : Caller)
      (opened : driver.context.closed = false) : Touches driver action (driver.close caller)
  | advance {closing : Closing} (closing_eq : driver.closing = some closing)
      (advances : action.isAdvance = true) :
      Touches driver action (driver.runHooks closing.caller closing.left)
  | panic (action_eq : action = .hookPanics) (hook : Nat) :
      Touches driver action { driver.note (.hookPanicked hook) with closing := none }

/-- Other actions than that of a close may leave the hooks alone even during a close. -/
theorem touches_nothing {action : Action} (advances_not : action.isAdvance = false)
    (same : SameHooks driver.history now.history)
    (hooks_eq : now.context.hooks = driver.context.hooks)
    (closed_eq : now.context.closed = driver.context.closed)
    (closing_eq : now.closing = driver.closing) (next_le : driver.next ≤ now.next) :
    driver.Touches action now :=
  .nothing same hooks_eq closed_eq closing_eq next_le
    fun advances => Bool.noConfusion (advances_not.symm.trans advances)

theorem touches_self {action : Action} (advances_not : action.isAdvance = false) :
    driver.Touches action driver :=
  touches_nothing advances_not (.refl _) rfl rfl rfl (Nat.le_refl _)

theorem touches_call {action : Action} {effect : Driver → Driver}
    (advances_not : action.isAdvance = false) (touches : driver.Touches action (effect driver)) :
    driver.Touches action (driver.call effect) := by
  rw [Driver.call]
  split
  · exact touches_self advances_not
  · exact touches

theorem touches_submit {action : Action} (advances_not : action.isAdvance = false)
    (job : Nat ⊕ Nat) {answer : Context Nat Nat Unit × Bool}
    (same : answer.1.hooks = driver.context.hooks ∧ answer.1.closed = driver.context.closed) :
    driver.Touches action (driver.submit job answer) :=
  touches_nothing advances_not (sameHooks_cons rfl _) same.1 same.2 rfl (Nat.le_succ _)

theorem touches_close {action : Action} (advances_not : action.isAdvance = false)
    (caller : Caller) : driver.Touches action (driver.close caller) := by
  cases closed : driver.context.closed with
  | false => exact .take advances_not caller closed
  | true =>
      rw [close_again closed]
      exact touches_nothing advances_not (sameHooks_cons rfl _) rfl rfl rfl (Nat.le_refl _)

theorem touches_closeBy (driver : Driver) (caller : Caller) :
    driver.Touches (.close caller) (driver.closeBy caller) := by
  cases caller with
  | outside =>
      apply touches_call rfl
      exact touches_close rfl .outside
  | inside =>
      rw [Driver.closeBy]
      split
      · apply touches_call rfl
        exact touches_close rfl .inside
      · exact touches_self rfl

theorem touches_advance (driver : Driver) : driver.Touches .advance driver.advance := by
  rw [Driver.advance]
  cases closing : driver.closing with
  | some now => exact .advance closing rfl
  | none => exact .nothing (.refl _) rfl rfl rfl (Nat.le_refl _) fun _ => closing

theorem touches_hookPanics (driver : Driver) : driver.Touches .hookPanics driver.hookPanics := by
  rw [Driver.hookPanics]
  split
  · exact .panic rfl _
  · exact touches_self rfl

theorem touches_goOn (driver : Driver) (completes : Bool) :
    driver.Touches (.goOn completes) (driver.goOn completes) := by
  rw [Driver.goOn]
  split
  · exact touches_self rfl
  · split
    · exact touches_nothing rfl (sameHooks_cons rfl _) rfl rfl rfl (Nat.le_refl _)
    · split
      · exact touches_nothing rfl (sameHooks_cons rfl _) rfl rfl rfl (Nat.le_refl _)
      · exact touches_nothing rfl (.refl _) rfl rfl rfl (Nat.le_refl _)
    · exact touches_self rfl

theorem sameHooks_halt (driver : Driver) : SameHooks driver.history driver.halt.history := by
  refine (sameHooks_append ?_).trans (sameHooks_cons rfl _)
  intro event event_mem
  obtain ⟨job, _, rfl⟩ := List.mem_map.mp (List.mem_reverse.mp event_mem)
  rfl

theorem touches_halt {action : Action} (advances_not : action.isAdvance = false) :
    driver.Touches action driver.halt :=
  touches_nothing advances_not driver.sameHooks_halt rfl rfl rfl (Nat.le_refl _)

theorem touches_look (driver : Driver) : driver.Touches .look driver.look := by
  rw [Driver.look]
  split
  · split
    · exact touches_halt rfl
    · exact touches_nothing rfl (sameHooks_cons rfl _) rfl rfl rfl (Nat.le_refl _)
  · exact touches_self rfl

theorem touches_take (driver : Driver) : driver.Touches .take driver.take := by
  rw [Driver.take]
  split
  · rw [Context.take?]
    cases driver.context.jobs with
    | nil =>
        dsimp only
        split
        · exact touches_halt rfl
        · exact touches_nothing rfl (.refl _) rfl rfl rfl (Nat.le_refl _)
    | cons job rest =>
        cases job with
        | inl closure =>
            exact touches_nothing rfl (sameHooks_cons rfl _) rfl rfl rfl (Nat.le_refl _)
        | inr future => exact touches_nothing rfl (.refl _) rfl rfl rfl (Nat.le_refl _)
  · exact touches_self rfl

theorem touches_shutDown (driver : Driver) : driver.Touches .shutDown driver.shutDown := by
  rw [Driver.shutDown]
  split
  · exact touches_self rfl
  · split
    · exact touches_self rfl
    · exact touches_nothing rfl
        ((sameHooks_cons rfl _).trans (driver.note _).sameHooks_halt) rfl rfl rfl (Nat.le_refl _)
    · exact touches_halt rfl

theorem touches_step (driver : Driver) (action : Action) :
    driver.Touches action (driver.step action) := by
  cases action with
  | execute =>
      apply touches_call rfl
      apply touches_submit rfl
      rw [Context.execute]
      split <;> exact ⟨rfl, rfl⟩
  | spawn =>
      apply touches_call rfl
      apply touches_submit rfl
      rw [Context.spawn]
      split <;> exact ⟨rfl, rfl⟩
  | addHook => exact touches_call rfl (.register rfl)
  | removeHook hook =>
      apply touches_call rfl
      exact .remove rfl hook
  | close caller => exact driver.touches_closeBy caller
  | clone =>
      apply touches_call rfl
      exact touches_nothing rfl (.refl _) rfl rfl rfl (Nat.le_refl _)
  | dropHandle =>
      rw [Driver.step, Driver.dropHandle]
      split
      · exact touches_self rfl
      · exact touches_nothing rfl (.refl _) rfl rfl rfl (Nat.le_refl _)
  | advance => exact driver.touches_advance
  | hookPanics => exact driver.touches_hookPanics
  | goOn completes => exact driver.touches_goOn completes
  | poll future =>
      rw [Driver.step, Driver.poll]
      split
      · exact touches_nothing rfl (sameHooks_cons rfl _) rfl rfl rfl (Nat.le_refl _)
      · exact touches_self rfl
  | look => exact driver.touches_look
  | take => exact driver.touches_take
  | shutDown => exact driver.touches_shutDown

theorem Hooked.step (hooked : driver.Hooked) (sound : driver.Sound) (action : Action) :
    (driver.step action).Hooked := by
  have touches := driver.touches_step action
  generalize driver.step action = now at touches ⊢
  cases touches with
  | nothing same hooks_eq _ closing_eq next_le =>
      exact hooked.of_same same hooks_eq closing_eq next_le
  | register => exact hooked.addHook
  | remove _ hook => exact hooked.removeHook hook
  | take _ caller => exact hooked.close sound caller
  | advance closing_eq => exact hooked.runHooks closing_eq
  | panic _ hook => exact hooked.panic hook

theorem Hooked.run (hooked : driver.Hooked) (sound : driver.Sound) (actions : List Action) :
    (driver.run actions).Hooked := by
  induction actions generalizing driver with
  | nil => exact hooked
  | cons action rest induction => exact induction (hooked.step sound action) (sound.step action)

/-! ## The close under way -/

/-- A hook begins to run only when the close under way goes on. -/
theorem ran_of_rest {action : Action} (at_rest : action.isAdvance = true → driver.closing = none) :
    ranHooks (driver.step action).history = ranHooks driver.history := by
  have touches := driver.touches_step action
  generalize driver.step action = now at touches ⊢
  cases touches with
  | nothing same => exact same.ran_eq
  | register => rfl
  | remove => rfl
  | take _ caller opened =>
      rw [close_eq opened]
      rfl
  | advance closing_eq advances => exact nomatch closing_eq.symm.trans (at_rest advances)
  | panic => rfl

/-- What a removal has told stays on record. -/
theorem removedHooks_step (driver : Driver) (action : Action) :
    removedHooks driver.history ⊆ removedHooks (driver.step action).history := by
  have touches := driver.touches_step action
  generalize driver.step action = now at touches ⊢
  cases touches with
  | nothing same => simp [same.removed_eq]
  | register => exact List.Subset.refl _
  | remove _ hook =>
      change _ ⊆ removedHooks (.removed hook (driver.context.removeHook hook).2 :: driver.history)
      cases (driver.context.removeHook hook).2 with
      | false => exact List.Subset.refl _
      | true => exact List.subset_cons_self hook _
  | take _ caller opened =>
      rw [close_eq opened]
      exact List.Subset.refl _
  | advance closing_eq advances =>
      rename_i closing
      cases closing.left <;> exact List.Subset.refl _
  | panic => exact List.Subset.refl _

theorem removedHooks_run (driver : Driver) (actions : List Action) :
    removedHooks driver.history ⊆ removedHooks (driver.run actions).history := by
  induction actions generalizing driver with
  | nil => exact List.Subset.refl _
  | cons action rest induction =>
      exact List.Subset.trans (driver.removedHooks_step action) (induction _)

theorem calm_step (calm : Calm driver.history) {action : Action}
    (panics_not : action ≠ .hookPanics) : Calm (driver.step action).history := by
  have touches := driver.touches_step action
  generalize driver.step action = now at touches ⊢
  cases touches with
  | nothing same => exact same.calm_iff.mpr calm
  | register => exact (calm_cons (by simp)).mpr calm
  | remove => exact (calm_cons (by simp)).mpr calm
  | take _ caller opened =>
      rw [close_eq opened]
      exact (calm_cons (by simp)).mpr calm
  | advance closing_eq advances =>
      rename_i closing
      cases closing.left with
      | nil => exact (calm_cons (by simp)).mpr calm
      | cons hook left => exact (calm_cons (by simp)).mpr calm
  | panic action_eq => exact absurd action_eq panics_not

/-- A closed context stays closed with the hooks that were taken, and its close comes nearer to its
end whenever it goes on. -/
theorem step_of_closed (closed : driver.context.closed = true) (action : Action) :
    (driver.step action).context.closed = true ∧
      taken (driver.step action).history = taken driver.history ∧
      (driver.step action).hooksLeft ≤ driver.hooksLeft - [action].countP Action.isAdvance := by
  have count_eq : [action].countP Action.isAdvance = if action.isAdvance then 1 else 0 := by
    simp [List.countP_cons]
  have touches := driver.touches_step action
  generalize driver.step action = now at touches ⊢
  cases touches with
  | nothing same hooks_eq closed_eq closing_eq next_le at_rest =>
      refine ⟨closed_eq.trans closed, same.taken_eq, ?_⟩
      rw [count_eq, hooksLeft, closing_eq]
      cases advances : action.isAdvance with
      | false => exact Nat.le_refl _
      | true => simp [at_rest advances]
  | register advances_not =>
      refine ⟨closed, rfl, ?_⟩
      rw [count_eq, advances_not]
      exact Nat.le_refl _
  | remove advances_not hook =>
      refine ⟨closed, ?_, ?_⟩
      · change taken (.removed hook (driver.context.removeHook hook).2 :: driver.history) = _
        cases (driver.context.removeHook hook).2 <;> rfl
      · rw [count_eq, advances_not]
        exact Nat.le_refl _
  | take _ caller opened => exact Bool.noConfusion (opened.symm.trans closed)
  | advance closing_eq advances =>
      rename_i closing
      refine ⟨?_, ?_, ?_⟩
      · cases closing.left <;> exact closed
      · cases closing.left <;> rfl
      · rw [hooksLeft_runHooks, count_eq, advances, hooksLeft, closing_eq]
        simp
  | panic => exact ⟨closed, rfl, Nat.zero_le _⟩

theorem run_of_closed (closed : driver.context.closed = true) (actions : List Action) :
    taken (driver.run actions).history = taken driver.history ∧
      (driver.run actions).hooksLeft ≤ driver.hooksLeft - actions.countP Action.isAdvance := by
  induction actions generalizing driver with
  | nil => exact ⟨rfl, Nat.le_refl _⟩
  | cons action rest induction =>
      obtain ⟨still_closed, taken_eq, step_left⟩ := step_of_closed closed action
      obtain ⟨taken_rest, rest_left⟩ := induction still_closed
      have both : (action :: rest).countP Action.isAdvance =
          [action].countP Action.isAdvance + rest.countP Action.isAdvance := by
        rw [← List.countP_append]
        rfl
      refine ⟨taken_rest.trans taken_eq, ?_⟩
      change ((driver.step action).run rest).hooksLeft ≤ _
      omega

theorem calm_run (calm : Calm driver.history) {actions : List Action}
    (panics_never : .hookPanics ∉ actions) : Calm (driver.run actions).history := by
  induction actions generalizing driver with
  | nil => exact calm
  | cons action rest induction =>
      rw [List.mem_cons, not_or] at panics_never
      exact induction (calm_step calm (Ne.symm panics_never.1)) panics_never.2

/-! ## Whole runs -/

/-- Which close hooks run, and which do not. -/
structure HooksSettled (driver : Driver) : Prop where
  /-- A hook that somebody registers who has a handle stands behind the others. -/
  registers : driver.handles ≠ 0 →
    standing (driver.step .addHook).history = standing driver.history ++ [driver.next]
  /-- A close by somebody who has a handle closes the context, unless it was closed before, and
  takes the hooks that stand. -/
  closes : driver.handles ≠ 0 → .close true ∉ driver.history → ∀ caller,
    (caller = .inside → driver.work.isBusy = true) →
      .close true ∈ (driver.step (.close caller)).history ∧
        taken (driver.step (.close caller)).history = standing driver.history
  /-- The hooks that have run, and those that are left to the close under way, are the first that
  were taken, in the order of their registration. -/
  in_order : (ranHooks driver.history).reverse ++ driver.unrun <+: taken driver.history
  /-- If no hook has panicked they are all that were taken. -/
  taken_eq : Calm driver.history →
    taken driver.history = (ranHooks driver.history).reverse ++ driver.unrun
  once : (ranHooks driver.history).Nodup
  none_before : .close true ∉ driver.history → ranHooks driver.history = []
  /-- No hook runs but when the first close goes on. -/
  none_apart : ∀ action, (action.isAdvance = true → driver.closing = none) →
    ranHooks (driver.step action).history = ranHooks driver.history
  /-- Once the context was closed and its hooks have returned, all that were taken have run,
  whatever they and others have called meanwhile. -/
  all_run : .close true ∈ driver.history → Calm driver.history → ∀ actions,
    .hookPanics ∉ actions → driver.hooksLeft ≤ actions.countP Action.isAdvance →
      (driver.run actions).closing = none ∧
        (ranHooks (driver.run actions).history).reverse = taken driver.history
  /-- A removal succeeds exactly for a hook that is registered and was neither removed nor taken. -/
  removes_iff : ∀ hook,
    (driver.context.removeHook hook).2 = true ↔ hook ∈ standing driver.history
  removed_once : (removedHooks driver.history).Nodup
  /-- A hook whose removal has succeeded never runs. -/
  removed_never_run : ∀ hook ∈ removedHooks driver.history, ∀ actions,
    hook ∉ ranHooks (driver.run actions).history
  /-- A second close, or one from a hook, does nothing. -/
  closes_once : .close true ∈ driver.history → ∀ caller,
    driver.close caller = driver.note (.close false)

theorem Hooked.taken_nodup (hooked : driver.Hooked) : (taken driver.history).Nodup :=
  (List.nodup_append.mp (List.nodup_append.mp hooked.known_nodup).2.1).1

/-- Every hook that has run was taken. -/
theorem Hooked.ran_prefix (hooked : driver.Hooked) :
    (ranHooks driver.history).reverse <+: taken driver.history :=
  (List.prefix_append _ _).trans hooked.in_order

theorem Hooked.ran_nodup (hooked : driver.Hooked) : (ranHooks driver.history).Nodup :=
  (List.reverse_perm _).nodup_iff.mp (hooked.ran_prefix.sublist.nodup hooked.taken_nodup)

theorem Hooked.removed_not_run (hooked : driver.Hooked) {hook : Nat}
    (removed : hook ∈ removedHooks driver.history) : hook ∉ ranHooks driver.history := by
  intro ran
  have apart := (List.nodup_append.mp (List.nodup_append.mp hooked.known_nodup).2.1).2.2
  have was_taken : hook ∈ taken driver.history :=
    hooked.ran_prefix.subset (List.mem_reverse.mpr ran)
  exact apart hook was_taken hook removed rfl

theorem Hooked.all_run (hooked : driver.Hooked) (calm : Calm driver.history)
    (rests : driver.closing = none) : (ranHooks driver.history).reverse = taken driver.history := by
  rw [hooked.taken_eq calm, unrun, rests]
  simp

/-- Whatever is called on a context, also by its hooks while its close runs them, the hooks that
stand when it is closed for the first time run once each and in order, as long as none panics, and
no others ever run. -/
theorem run_settles_hooks (kind : ContextKind) (actions : List Action) :
    ((start kind).run actions).HooksSettled := by
  have sound := (sound_start kind).run actions
  have hooked := (hooked_start kind).run (sound_start kind) actions
  generalize (start kind).run actions = driver at sound hooked
  have closed_iff := sound.flagged.closed_iff
  refine
    { registers := ?_
      closes := ?_
      in_order := hooked.in_order
      taken_eq := hooked.taken_eq
      once := hooked.ran_nodup
      none_before := ?_
      none_apart := fun action => ran_of_rest
      all_run := ?_
      removes_iff := hooked.removes_iff
      removed_once := ?_
      removed_never_run := ?_
      closes_once := fun closed => close_again (closed_iff.mpr closed) }
  · intro some_handle
    rw [Driver.step, Driver.call, if_neg some_handle]
    rfl
  · intro some_handle still_open caller calls
    rw [sound.closes_first some_handle still_open calls]
    exact ⟨List.mem_cons_self, rfl⟩
  · intro still_open
    have in_order := hooked.ran_prefix
    rw [taken_of_open still_open, List.prefix_nil] at in_order
    exact List.reverse_eq_nil_iff.mp in_order
  · intro closed calm actions panics_never enough
    obtain ⟨taken_eq, left_le⟩ := run_of_closed (closed_iff.mpr closed) actions
    have rests : (driver.run actions).closing = none := closing_of_hooksLeft (by omega)
    have all_ran := (hooked.run sound actions).all_run (calm_run calm panics_never) rests
    exact ⟨rests, all_ran.trans taken_eq⟩
  · exact (List.nodup_append.mp (List.nodup_append.mp hooked.known_nodup).2.1).2.1
  · intro hook removed actions
    exact (hooked.run sound actions).removed_not_run (driver.removedHooks_run actions removed)

/-- The first hook tries to remove the second, removes nothing, and closes the context again; the
second still runs, and a hook that is registered meanwhile does not. -/
example :
    let driver := (start .worker).run
      [.addHook, .addHook, .close .outside, .advance, .removeHook 1, .close .outside, .addHook,
        .advance, .advance]
    taken driver.history = [0, 1] ∧ ranHooks driver.history = [1, 0] ∧
      removedHooks driver.history = [] ∧ standing driver.history = [2] := by
  decide

end Courier.Driver
