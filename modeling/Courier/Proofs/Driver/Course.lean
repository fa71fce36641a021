import Courier.Proofs.Driver.Sound

/-!
# The course of a context

A driver that is let alone begins all closures that wait as long as its context is open.  Once it
was told to stop it begins at most the one for which it has already looked, and stops.
-/

namespace Courier.Driver

variable {driver : Driver}

/-! ## Returns -/

/-- Nothing is submitted or begun on the way. -/
structure Kept (driver now : Driver) : Prop where
  accepted_eq : acceptedClosures now.history = acceptedClosures driver.history
  begun_eq : begunClosures now.history = begunClosures driver.history

theorem Kept.trans {now later : Driver} (first : driver.Kept now) (second : now.Kept later) :
    driver.Kept later where
  accepted_eq := second.accepted_eq.trans first.accepted_eq
  begun_eq := second.begun_eq.trans first.begun_eq

/-- The context and the close under way are as they were. -/
structure LeftAlone (driver now : Driver) : Prop extends Kept driver now where
  context_eq : now.context = driver.context
  closing_eq : now.closing = driver.closing

theorem leftAlone_goOn (driver : Driver) (completes : Bool) :
    driver.LeftAlone (driver.goOn completes) := by
  rw [Driver.goOn]
  split
  · exact ⟨⟨rfl, rfl⟩, rfl, rfl⟩
  · split
    · exact ⟨⟨rfl, rfl⟩, rfl, rfl⟩
    · split
      · exact ⟨⟨rfl, rfl⟩, rfl, rfl⟩
      · exact ⟨⟨rfl, rfl⟩, rfl, rfl⟩
    · exact ⟨⟨rfl, rfl⟩, rfl, rfl⟩

theorem isHeld_of_closing (closing : driver.closing = none) : driver.isHeld = false := by
  rw [isHeld, closing, Option.any_none]

/-- Whatever returns is gone. -/
theorem depth_goOn (closing : driver.closing = none) (completes : Bool) :
    (driver.goOn completes).depth = driver.depth - 1 := by
  rw [Driver.goOn, if_neg (by simp [isHeld_of_closing closing])]
  cases work : driver.work with
  | idle => simp [depth, work, Work.isBusy]
  | taking => simp [depth, work, Work.isBusy]
  | closure closure => simp [depth, work, Work.isBusy]
  | futures polled =>
      cases polled with
      | none => simp [depth, work, Work.isBusy]
      | some future => cases completes <;> simp [depth, work, Work.isBusy]

theorem goOn_not_taking (not_taking : driver.work ≠ .taking) (completes : Bool) :
    (driver.goOn completes).work ≠ .taking := by
  rw [Driver.goOn]
  split
  · exact not_taking
  · split
    · simp
    · split
      · simp
      · simp
    · exact not_taking

/-- What runs returns, one after the other. -/
theorem leftAlone_goOns (closing : driver.closing = none) (returns : List Bool) :
    driver.LeftAlone (driver.run (returns.map .goOn)) ∧
      (driver.run (returns.map .goOn)).depth = driver.depth - returns.length ∧
      (driver.work ≠ .taking → (driver.run (returns.map .goOn)).work ≠ .taking) := by
  induction returns generalizing driver with
  | nil => exact ⟨⟨⟨rfl, rfl⟩, rfl, rfl⟩, rfl, id⟩
  | cons completes rest induction =>
      have first := driver.leftAlone_goOn completes
      obtain ⟨others, depth_eq, others_not⟩ := induction (first.closing_eq.trans closing)
      refine ⟨⟨first.toKept.trans others.toKept, others.context_eq.trans first.context_eq,
        others.closing_eq.trans first.closing_eq⟩, depth_eq.trans ?_, fun not_taking =>
          others_not (goOn_not_taking not_taking completes)⟩
      rw [depth_goOn closing, List.length_cons]
      omega

theorem isBusy_of_depth (free : driver.depth = 0) : driver.work.isBusy = false := by
  cases busy : driver.work.isBusy with
  | false => rfl
  | true =>
      rw [depth, busy] at free
      cases free

/-- A driver at which nothing runs looks next, or has looked. -/
theorem isFree_of_depth (free : driver.depth = 0) (going : driver.context.stopped = false)
    (taking : driver.work ≠ .taking) : driver.isFree = true := by
  have busy := isBusy_of_depth free
  refine isFree_iff.mpr ⟨going, ?_⟩
  cases work : driver.work with
  | idle => exact .inl rfl
  | taking => exact absurd work taking
  | closure closure =>
      rw [work] at busy
      cases busy
  | futures polled =>
      cases polled with
      | none => exact .inr rfl
      | some future =>
          rw [work] at busy
          cases busy

/-! ## Rounds of an open context -/

/-- A look that finds no reason to stop changes nothing else. -/
theorem look_eq (waits : driver.context.stopping = false) :
    driver.look =
      if driver.isFree then { driver.note .looked with work := .taking } else driver := by
  rw [Driver.look, waits]
  rfl

/-- A driver that was not told to stop takes the next job after its next look. -/
theorem look_going (free : driver.depth = 0) (going : driver.context.stopped = false)
    (waits : driver.context.stopping = false) :
    driver.look.work = .taking ∧ driver.LeftAlone driver.look := by
  by_cases taking : driver.work = .taking
  · have looked : ¬(driver.isFree = true) := by simp [isFree_iff, taking]
    rw [look_eq waits, if_neg looked]
    exact ⟨taking, ⟨rfl, rfl⟩, rfl, rfl⟩
  · rw [look_eq waits, if_pos (isFree_of_depth free going taking)]
    exact ⟨rfl, ⟨rfl, rfl⟩, rfl, rfl⟩

/-- The driver begins the next closure or takes the next future over. -/
theorem take_next (taking : driver.work = .taking) {job : Nat ⊕ Nat} {rest : List (Nat ⊕ Nat)}
    (jobs_eq : driver.context.jobs = job :: rest) :
    driver.take.depth ≤ 1 ∧ driver.take.context = { driver.context with jobs := rest } ∧
      driver.take.closing = driver.closing ∧
      acceptedClosures driver.take.history = acceptedClosures driver.history := by
  rw [Driver.take, if_pos taking, Context.take?, jobs_eq]
  cases job with
  | inl closure => exact ⟨Nat.le_refl 1, rfl, rfl, rfl⟩
  | inr future => exact ⟨Nat.zero_le 1, rfl, rfl, rfl⟩

theorem Sound.at_rest_of_open (sound : driver.Sound) (not_closed : driver.context.closed = false) :
    driver.closing = none ∧ driver.context.stopping = false := by
  have still_open : .close true ∉ driver.history := fun closed =>
    Bool.noConfusion (not_closed.symm.trans (sound.flagged.closed_iff.mpr closed))
  refine ⟨?_, Bool.eq_false_iff.mpr fun stopping => ?_⟩
  · by_contra under_way
    exact still_open (sound.closes.under_way under_way).1
  · exact (sound.closes.before still_open).1 (sound.flagged.stopping_iff.mp stopping)

/-- A round leaves the driver of an open context with one job less. -/
theorem Sound.round_open (sound : driver.Sound) (free : driver.depth = 0)
    (accepts : driver.context.accepts = true) {job : Nat ⊕ Nat} {rest : List (Nat ⊕ Nat)}
    (jobs_eq : driver.context.jobs = job :: rest) :
    (driver.look.take.goOn true).depth = 0 ∧
      (driver.look.take.goOn true).context = { driver.context with jobs := rest } ∧
      acceptedClosures (driver.look.take.goOn true).history = acceptedClosures driver.history := by
  obtain ⟨not_closed, going⟩ := accepts_iff.mp accepts
  obtain ⟨closing, waits⟩ := sound.at_rest_of_open not_closed
  obtain ⟨taking, looked⟩ := look_going free going waits
  obtain ⟨depth_le, context_eq, closing_eq, accepted_eq⟩ :=
    take_next taking ((congrArg Context.jobs looked.context_eq).trans jobs_eq)
  have returned := driver.look.take.leftAlone_goOn true
  refine ⟨?_, ?_, returned.accepted_eq.trans (accepted_eq.trans looked.accepted_eq)⟩
  · rw [depth_goOn (closing_eq.trans (looked.closing_eq.trans closing))]
    omega
  · rw [returned.context_eq, context_eq, looked.context_eq]

/-- With a turn for every job the driver of a context that is not closed has none left. -/
theorem Sound.rounds_take (sound : driver.Sound) (free : driver.depth = 0)
    (not_closed : driver.context.closed = false) :
    (driver.run (rounds [] driver.context.jobs.length)).depth = 0 ∧
      (driver.run (rounds [] driver.context.jobs.length)).context =
        { driver.context with jobs := [] } ∧
      acceptedClosures (driver.run (rounds [] driver.context.jobs.length)).history =
        acceptedClosures driver.history := by
  generalize jobs_eq : driver.context.jobs = jobs
  induction jobs generalizing driver with
  | nil =>
      have context_eq : driver.context = { driver.context with jobs := [] } := by rw [← jobs_eq]
      exact ⟨free, context_eq, rfl⟩
  | cons job rest induction =>
      have going : driver.context.stopped = false := Bool.eq_false_iff.mpr fun stopped =>
        List.cons_ne_nil job rest (jobs_eq.symm.trans (sound.flagged.cleared stopped).1)
      obtain ⟨free_again, context_eq, accepted_eq⟩ :=
        sound.round_open free (accepts_iff.mpr ⟨not_closed, going⟩) jobs_eq
      obtain ⟨free_after, context_after, accepted_after⟩ :=
        induction (sound.look.take.goOn true) free_again
          ((congrArg Context.closed context_eq).trans not_closed)
          (congrArg Context.jobs context_eq)
      rw [context_eq] at context_after
      exact ⟨free_after, context_after, accepted_after.trans accepted_eq⟩

/-- All closures begin then that were accepted. -/
theorem Sound.rounds_open (sound : driver.Sound) (free : driver.depth = 0)
    (accepts : driver.context.accepts = true) :
    begunClosures (driver.run (rounds [] driver.context.jobs.length)).history =
      acceptedClosures driver.history := by
  obtain ⟨not_closed, going⟩ := accepts_iff.mp accepts
  obtain ⟨-, context_eq, accepted_same⟩ := sound.rounds_take free not_closed
  have taken := sound.run (rounds [] driver.context.jobs.length)
  have accepted_eq := taken.ordered.accepted_eq
  rw [taken.flagged.dropped_eq ((congrArg Context.stopped context_eq).trans going),
    congrArg Context.jobs context_eq] at accepted_eq
  exact accepted_eq.symm.trans accepted_same

theorem run_rounds (driver : Driver) (returns : List Bool) (turns : Nat) :
    driver.run (rounds returns turns) = (driver.run (returns.map .goOn)).run (rounds [] turns) :=
  List.foldl_append

/-- An open context that is let alone begins all that it has accepted. -/
theorem Sound.begins_all (sound : driver.Sound) (is_open : IsOpen driver.history)
    {returns : List Bool} (enough : driver.depth ≤ returns.length) :
    begunClosures (driver.run (rounds returns driver.context.jobs.length)).history =
      acceptedClosures driver.history := by
  have accepts := sound.isOpen_iff.mpr is_open
  have closing := (sound.at_rest_of_open (accepts_iff.mp accepts).1).1
  obtain ⟨returned, depth_eq, -⟩ := leftAlone_goOns closing returns
  have free : (driver.run (returns.map .goOn)).depth = 0 := by omega
  rw [← returned.context_eq] at accepts ⊢
  rw [run_rounds, (sound.run _).rounds_open free accepts]
  exact returned.accepted_eq

/-! ## Stopping -/

/-- A driver that stops adds to its record what it drops, and that it has stopped. -/
theorem filterMap_halt {α : Type} (driver : Driver) {pick : Event → Option α}
    (drops : ∀ job, pick (.dropped job) = none) (stops : pick .stopped = none) :
    driver.halt.history.filterMap pick = driver.history.filterMap pick := by
  let dropped := (driver.running.map Sum.inr ++ driver.context.jobs).map Event.dropped
  have history_eq : driver.halt.history = .stopped :: (dropped.reverse ++ driver.history) := rfl
  have none_picked : dropped.reverse.filterMap pick = [] := by
    refine List.filterMap_eq_nil_iff.mpr fun event event_mem => ?_
    obtain ⟨job, _, rfl⟩ := List.mem_map.mp (List.mem_reverse.mp event_mem)
    exact drops job
  rw [history_eq, List.filterMap_cons_none stops, List.filterMap_append, none_picked,
    List.nil_append]

theorem kept_halt (driver : Driver) : driver.Kept driver.halt where
  accepted_eq := driver.filterMap_halt (fun _ => rfl) rfl
  begun_eq := driver.filterMap_halt (fun _ => rfl) rfl

/-- Nothing is left to do for a driver that has stopped. -/
theorem Sound.round_stopped (sound : driver.Sound) (stopped : driver.context.stopped = true) :
    driver.look = driver ∧ driver.take = driver ∧ driver.goOn true = driver := by
  have idle := (sound.flagged.cleared stopped).2.1
  refine ⟨?_, ?_, ?_⟩
  · rw [Driver.look, if_neg (by simp [isFree, stopped])]
  · rw [Driver.take, if_neg (by simp [idle])]
  · rw [Driver.goOn, idle]
    exact ite_self driver

/-- With its next look a driver stops that was told to. -/
theorem Sound.look_told (sound : driver.Sound) (free : driver.depth = 0)
    (stopping : driver.context.stopping = true) (taking : driver.work ≠ .taking) :
    driver.look.context.stopped = true ∧ driver.Kept driver.look := by
  cases stopped : driver.context.stopped with
  | true =>
      rw [(sound.round_stopped stopped).1]
      exact ⟨stopped, rfl, rfl⟩
  | false =>
      rw [Driver.look, if_pos (isFree_of_depth free stopped taking), if_pos stopping]
      exact ⟨rfl, driver.kept_halt⟩

/-- At most one closure has begun on the way, and only if the driver had already looked. -/
def OneMore (driver now : Driver) : Prop :=
  begunClosures now.history = begunClosures driver.history ∨
    driver.work = .taking ∧
      ∃ closure, begunClosures now.history = closure :: begunClosures driver.history

theorem OneMore.of_kept {now later : Driver} (one_more : now.OneMore later)
    (kept : driver.Kept now) (still_taking : now.work = .taking → driver.work = .taking) :
    driver.OneMore later := by
  rw [OneMore, kept.begun_eq] at one_more
  exact one_more.imp_right (And.imp_left still_taking)

/-- A driver that has looked takes one job more, whatever it was told since. -/
theorem take_last (taking : driver.work = .taking) :
    driver.take.work ≠ .taking ∧ driver.take.context.stopping = driver.context.stopping ∧
      driver.take.closing = driver.closing ∧ driver.OneMore driver.take ∧
      acceptedClosures driver.take.history = acceptedClosures driver.history := by
  rw [Driver.take, if_pos taking, Context.take?]
  cases driver.context.jobs with
  | nil =>
      dsimp only
      split
      · exact ⟨by simp [Driver.halt], rfl, rfl, .inl driver.kept_halt.begun_eq,
          driver.kept_halt.accepted_eq⟩
      · exact ⟨by simp, rfl, rfl, .inl rfl, rfl⟩
  | cons job rest =>
      cases job with
      | inl closure => exact ⟨by simp, rfl, rfl, .inr ⟨taking, closure, rfl⟩, rfl⟩
      | inr future => exact ⟨by simp, rfl, rfl, .inl rfl, rfl⟩

theorem depth_le_one (driver : Driver) : driver.depth ≤ 1 := driver.work.isBusy.toNat_le

/-- A driver that was told to stop, and has not looked before, is done with one round. -/
theorem Sound.round_told (sound : driver.Sound) (free : driver.depth = 0)
    (stopping : driver.context.stopping = true) (not_taking : driver.work ≠ .taking) :
    (driver.look.take.goOn true).context.stopped = true ∧
      driver.Kept (driver.look.take.goOn true) := by
  obtain ⟨stopped, kept⟩ := sound.look_told free stopping not_taking
  obtain ⟨-, takes, returns⟩ := sound.look.round_stopped stopped
  rw [takes, returns]
  exact ⟨stopped, kept⟩

/-- A driver that has looked takes one job in this round, and looks in the next. -/
theorem round_taking (closing : driver.closing = none) (taking : driver.work = .taking) :
    (driver.look.take.goOn true).depth = 0 ∧
      (driver.look.take.goOn true).context.stopping = driver.context.stopping ∧
      (driver.look.take.goOn true).work ≠ .taking ∧
      driver.OneMore (driver.look.take.goOn true) ∧
      acceptedClosures (driver.look.take.goOn true).history = acceptedClosures driver.history := by
  have look_eq : driver.look = driver := by
    rw [Driver.look, if_neg (by simp [isFree_iff, taking])]
  rw [look_eq]
  obtain ⟨not_taking, stopping_eq, closing_eq, one_more, accepted_eq⟩ := take_last taking
  have left_alone := driver.take.leftAlone_goOn true
  refine ⟨?_, (congrArg Context.stopping left_alone.context_eq).trans stopping_eq,
    goOn_not_taking not_taking true, ?_, left_alone.accepted_eq.trans accepted_eq⟩
  · have depth_le := driver.take.depth_le_one
    rw [depth_goOn (closing_eq.trans closing)]
    omega
  · rw [OneMore, left_alone.begun_eq]
    exact one_more

/-- Two rounds are enough for a driver that was told to stop. -/
theorem Sound.rounds_told (sound : driver.Sound) (free : driver.depth = 0)
    (closing : driver.closing = none) (stopping : driver.context.stopping = true) :
    (driver.run (rounds [] 2)).context.stopped = true ∧ driver.OneMore (driver.run (rounds [] 2)) ∧
      acceptedClosures (driver.run (rounds [] 2)).history = acceptedClosures driver.history := by
  have run_eq : driver.run (rounds [] 2) = (driver.look.take.goOn true).look.take.goOn true := rfl
  have round_sound := sound.look.take.goOn true
  rw [run_eq]
  by_cases taking : driver.work = .taking
  · obtain ⟨free_again, stopping_eq, not_taking, one_more, accepted_eq⟩ :=
      round_taking closing taking
    obtain ⟨stopped, kept⟩ :=
      round_sound.round_told free_again (stopping_eq.trans stopping) not_taking
    refine ⟨stopped, ?_, kept.accepted_eq.trans accepted_eq⟩
    rw [OneMore, kept.begun_eq]
    exact one_more
  · obtain ⟨stopped, kept⟩ := sound.round_told free stopping taking
    obtain ⟨looks, takes, returns⟩ := round_sound.round_stopped stopped
    rw [looks, takes, returns]
    exact ⟨stopped, .inl kept.begun_eq, kept.accepted_eq⟩

/-! ## Closes -/

/-- The close under way has gone on. -/
structure Advanced (driver now : Driver) : Prop extends Kept driver now where
  work_eq : now.work = driver.work
  calm_iff : Calm now.history ↔ Calm driver.history
  closed : .close true ∈ driver.history → .close true ∈ now.history

theorem Advanced.trans {now later : Driver} (first : driver.Advanced now)
    (second : now.Advanced later) : driver.Advanced later where
  toKept := first.toKept.trans second.toKept
  work_eq := second.work_eq.trans first.work_eq
  calm_iff := second.calm_iff.trans first.calm_iff
  closed := second.closed ∘ first.closed

theorem advanced_advance (driver : Driver) :
    driver.Advanced driver.advance ∧ driver.advance.hooksLeft = driver.hooksLeft - 1 := by
  rw [Driver.advance]
  cases closing : driver.closing with
  | none => exact ⟨⟨⟨rfl, rfl⟩, rfl, .rfl, id⟩, by simp [hooksLeft, closing]⟩
  | some now =>
      have left_eq : driver.hooksLeft = now.left.length + 1 := by
        rw [hooksLeft, closing, Option.elim_some]
      refine ⟨?_, by rw [left_eq]; exact driver.hooksLeft_runHooks now.caller now.left⟩
      dsimp only
      cases now.left with
      | nil =>
          have calm_iff : Calm (.told :: driver.history) ↔ Calm driver.history :=
            calm_cons (by simp)
          exact ⟨⟨rfl, rfl⟩, rfl, calm_iff, List.mem_cons_of_mem _⟩
      | cons hook left =>
          have calm_iff : Calm (.ranHook hook.id :: driver.history) ↔ Calm driver.history :=
            calm_cons (by simp)
          exact ⟨⟨rfl, rfl⟩, rfl, calm_iff, List.mem_cons_of_mem _⟩

theorem advanced_advances (driver : Driver) (times : Nat) :
    driver.Advanced (driver.run (List.replicate times .advance)) ∧
      (driver.run (List.replicate times .advance)).hooksLeft = driver.hooksLeft - times := by
  induction times generalizing driver with
  | zero => exact ⟨⟨⟨rfl, rfl⟩, rfl, .rfl, id⟩, rfl⟩
  | succ times induction =>
      obtain ⟨first, first_left⟩ := driver.advanced_advance
      obtain ⟨others, left_eq⟩ := induction driver.advance
      refine ⟨first.trans others, left_eq.trans ?_⟩
      omega

/-- A closure that has called a close returns when the hooks have returned. -/
theorem finishes {closure : Nat} (running : driver.work = .closure closure) {hooks : Nat}
    (enough : driver.hooksLeft ≤ hooks) (completes : Bool) :
    .returned closure ∈
      (driver.run (List.replicate hooks .advance ++ [.goOn completes])).history := by
  obtain ⟨advanced, left_eq⟩ := driver.advanced_advances hooks
  have closing : (driver.run (List.replicate hooks .advance)).closing = none :=
    closing_of_hooksLeft (by omega)
  have run_eq : driver.run (List.replicate hooks .advance ++ [.goOn completes]) =
      (driver.run (List.replicate hooks .advance)).goOn completes := List.foldl_append
  rw [run_eq, Driver.goOn, if_neg (by simp [isHeld_of_closing closing]), advanced.work_eq, running]
  exact List.mem_cons_self

/-- A closed context that is let alone stops, if no hook panics, and begins at most the closure for
which its driver has already looked. -/
theorem Sound.stops (sound : driver.Sound) (closed : .close true ∈ driver.history)
    (calm : Calm driver.history) {hooks : Nat} (enough_hooks : driver.hooksLeft ≤ hooks)
    {returns : List Bool} (enough : driver.depth ≤ returns.length) :
    .stopped ∈ (driver.run (List.replicate hooks .advance ++ rounds returns 2)).history ∧
      driver.OneMore (driver.run (List.replicate hooks .advance ++ rounds returns 2)) ∧
      acceptedClosures
          (driver.run (List.replicate hooks .advance ++ rounds returns 2)).history =
        acceptedClosures driver.history := by
  obtain ⟨advanced, left_eq⟩ := driver.advanced_advances hooks
  have run_eq : driver.run (List.replicate hooks .advance ++ rounds returns 2) =
      (driver.run (List.replicate hooks .advance)).run (rounds returns 2) := List.foldl_append
  rw [run_eq, run_rounds]
  have told_sound := sound.run (List.replicate hooks .advance)
  generalize driver.run (List.replicate hooks .advance) = told at *
  have closing : told.closing = none := closing_of_hooksLeft (by omega)
  have stopping : told.context.stopping = true := told_sound.flagged.stopping_iff.mpr
    (told_sound.closes.at_rest closing (advanced.calm_iff.mpr calm) (advanced.closed closed))
  obtain ⟨returned, depth_eq, not_taking⟩ := leftAlone_goOns closing returns
  have free : (told.run (returns.map .goOn)).depth = 0 := by
    have depth_same : told.depth = driver.depth := congrArg (·.isBusy.toNat) advanced.work_eq
    omega
  have end_sound := told_sound.run (returns.map .goOn)
  obtain ⟨stopped, one_more, accepted_eq⟩ := end_sound.rounds_told free
    (returned.closing_eq.trans closing)
    ((congrArg Context.stopping returned.context_eq).trans stopping)
  have still_taking : (told.run (returns.map .goOn)).work = .taking → driver.work = .taking := by
    intro taking
    rw [← advanced.work_eq]
    by_contra before
    exact not_taking before taking
  exact ⟨(end_sound.run (rounds [] 2)).flagged.stopped_iff.mp stopped,
    one_more.of_kept (advanced.toKept.trans returned.toKept) still_taking,
    accepted_eq.trans (returned.accepted_eq.trans advanced.accepted_eq)⟩

/-! ## The last closure -/

/-- What runs on the driver waits for a close that it has called, or the driver was told to stop and
has not looked before. -/
def Barred (driver : Driver) : Prop :=
  driver.isHeld = true ∨ driver.context.stopping = true ∧ driver.work ≠ .taking

/-- No closure has begun, and the next step begins none. -/
structure NoneBegins (driver now : Driver) : Prop where
  barred : now.Barred
  begun_eq : begunClosures now.history = begunClosures driver.history

theorem Barred.of_same {now : Driver} (barred : driver.Barred) (work_eq : now.work = driver.work)
    (closing_eq : now.closing = driver.closing)
    (stopping_eq : now.context.stopping = driver.context.stopping) : now.Barred := by
  rw [Barred, isHeld, closing_eq, stopping_eq, work_eq]
  exact barred

theorem Barred.unchanged (barred : driver.Barred) : driver.NoneBegins driver := ⟨barred, rfl⟩

theorem Sound.closed_of_barred (sound : driver.Sound) (barred : driver.Barred) :
    driver.context.closed = true := by
  refine sound.flagged.closed_iff.mpr ?_
  rcases barred with held | ⟨stopping, -⟩
  · refine (sound.closes.under_way fun closing => ?_).1
    exact Bool.noConfusion ((isHeld_of_closing closing).symm.trans held)
  · by_contra still_open
    exact (sound.closes.before still_open).1 (sound.flagged.stopping_iff.mp stopping)

theorem Barred.call (barred : driver.Barred) (effect : Driver → Driver)
    (effect_none : driver.NoneBegins (effect driver)) : driver.NoneBegins (driver.call effect) := by
  rw [Driver.call]
  split
  · exact barred.unchanged
  · exact effect_none

theorem Barred.submit (barred : driver.Barred) (job : Nat ⊕ Nat) :
    driver.NoneBegins (driver.submit job (if driver.context.accepts then
      ({ driver.context with jobs := driver.context.jobs ++ [job] }, true)
    else (driver.context, false))) := by
  split
  · exact ⟨barred.of_same rfl rfl rfl, rfl⟩
  · exact ⟨barred.of_same rfl rfl rfl, rfl⟩

theorem Barred.close (barred : driver.Barred) (sound : driver.Sound) (caller : Caller) :
    driver.NoneBegins (driver.close caller) := by
  rw [close_again (sound.closed_of_barred barred)]
  exact ⟨barred.of_same rfl rfl rfl, rfl⟩

/-- The close is over when the driver was told to stop. -/
theorem Sound.at_rest_of_stopping (sound : driver.Sound)
    (stopping : driver.context.stopping = true) : driver.closing = none := by
  by_contra under_way
  exact (sound.closes.under_way under_way).2.1 (sound.flagged.stopping_iff.mp stopping)

theorem Barred.not_taking (barred : driver.Barred) (sound : driver.Sound) :
    driver.work ≠ .taking := by
  rcases barred with held | ⟨-, not_taking⟩
  · intro taking
    have busy := sound.flagged.held held
    rw [taking] at busy
    cases busy
  · exact not_taking

theorem Barred.advance (barred : driver.Barred) (sound : driver.Sound) :
    driver.NoneBegins driver.advance := by
  have not_taking := barred.not_taking sound
  have begun_eq := driver.advanced_advance.1.begun_eq
  refine ⟨?_, begun_eq⟩
  rw [Driver.advance]
  cases closing : driver.closing with
  | none => exact barred
  | some now =>
      dsimp only
      cases now.left with
      | nil => exact .inr ⟨rfl, not_taking⟩
      | cons hook left =>
          rcases barred with held | ⟨stopping, -⟩
          · rw [isHeld, closing] at held
            exact .inl held
          · have at_rest := sound.at_rest_of_stopping stopping
            rw [closing] at at_rest
            cases at_rest

theorem Barred.goOn (barred : driver.Barred) (completes : Bool) :
    driver.NoneBegins (driver.goOn completes) := by
  have left_alone := driver.leftAlone_goOn completes
  refine ⟨?_, left_alone.begun_eq⟩
  rcases barred with held | ⟨stopping, not_taking⟩
  · exact .inl ((congrArg (·.any (·.caller = .inside)) left_alone.closing_eq).trans held)
  · exact .inr ⟨(congrArg Context.stopping left_alone.context_eq).trans stopping,
      goOn_not_taking not_taking completes⟩

theorem Barred.poll (barred : driver.Barred) (future : Nat) :
    driver.NoneBegins (driver.poll future) := by
  rw [Driver.poll]
  split
  · refine ⟨barred.imp id (And.imp_right fun _ => ?_), rfl⟩
    simp
  · exact barred.unchanged

/-- Who stops begins nothing. -/
theorem none_begins_halt (stopping : driver.context.stopping = true) :
    driver.NoneBegins driver.halt :=
  ⟨.inr ⟨stopping, by simp [Driver.halt]⟩, driver.kept_halt.begun_eq⟩

theorem Barred.look (barred : driver.Barred) (sound : driver.Sound) :
    driver.NoneBegins driver.look := by
  rw [Driver.look]
  split
  · rename_i free
    have stopping : driver.context.stopping = true := by
      rcases barred with held | ⟨stopping, -⟩
      · exact Bool.noConfusion ((sound.flagged.not_held (free_of_isFree free)).symm.trans held)
      · exact stopping
    rw [if_pos stopping]
    exact none_begins_halt stopping
  · exact barred.unchanged

theorem Barred.shutDown (barred : driver.Barred) : driver.NoneBegins driver.shutDown := by
  rw [Driver.shutDown]
  split
  · exact barred.unchanged
  · rename_i ready
    have stopping : driver.context.stopping = true := by
      rcases barred with held | ⟨stopping, -⟩
      · exact absurd (by simp [held]) ready
      · exact stopping
    split
    · exact barred.unchanged
    · exact ⟨.inr ⟨stopping, by simp [Driver.halt]⟩, (driver.note _).kept_halt.begun_eq⟩
    · exact none_begins_halt stopping

theorem Barred.step (barred : driver.Barred) (sound : driver.Sound) {action : Action}
    (panics_not : action ≠ .hookPanics) : driver.NoneBegins (driver.step action) := by
  cases action with
  | execute => exact barred.call Driver.execute (barred.submit (.inl driver.next))
  | spawn => exact barred.call Driver.spawn (barred.submit (.inr driver.next))
  | addHook => exact barred.call Driver.addHook ⟨barred.of_same rfl rfl rfl, rfl⟩
  | removeHook hook => exact barred.call (·.removeHook hook) ⟨barred.of_same rfl rfl rfl, rfl⟩
  | clone =>
      exact barred.call (fun driver => { driver with handles := driver.handles + 1 })
        ⟨barred.of_same rfl rfl rfl, rfl⟩
  | close caller =>
      cases caller with
      | outside => exact barred.call (·.close .outside) (barred.close sound .outside)
      | inside =>
          rw [Driver.step, Driver.closeBy]
          split
          · exact barred.call (·.close .inside) (barred.close sound .inside)
          · exact barred.unchanged
  | dropHandle =>
      rw [Driver.step, Driver.dropHandle]
      split
      · exact barred.unchanged
      · exact ⟨barred.of_same rfl rfl rfl, rfl⟩
  | advance => exact barred.advance sound
  | hookPanics => exact absurd rfl panics_not
  | goOn completes => exact barred.goOn completes
  | poll future => exact barred.poll future
  | look => exact barred.look sound
  | take =>
      rw [Driver.step, Driver.take, if_neg (barred.not_taking sound)]
      exact barred.unchanged
  | shutDown => exact barred.shutDown

theorem Barred.run (barred : driver.Barred) (sound : driver.Sound) {actions : List Action}
    (panics_never : .hookPanics ∉ actions) :
    begunClosures (driver.run actions).history = begunClosures driver.history := by
  induction actions generalizing driver with
  | nil => rfl
  | cons action rest induction =>
      rw [List.mem_cons, not_or] at panics_never
      obtain ⟨barred_still, begun_eq⟩ := barred.step sound (Ne.symm panics_never.1)
      exact (induction barred_still (sound.step action) panics_never.2).trans begun_eq

/-- No closure begins after what runs on the driver has closed the context. -/
theorem Sound.last (sound : driver.Sound) (some_handle : driver.handles ≠ 0)
    (still_open : .close true ∉ driver.history) (busy : driver.work.isBusy = true)
    {actions : List Action} (panics_never : .hookPanics ∉ actions) :
    begunClosures ((driver.step (.close .inside)).run actions).history =
      begunClosures driver.history := by
  have closed_sound := sound.step (.close .inside)
  rw [sound.closes_first some_handle still_open fun _ => busy] at closed_sound ⊢
  exact Barred.run (.inl rfl) closed_sound panics_never

/-! ## Whole runs -/

/-- Once the driver was told to stop at most one more closure begins, if the driver had looked. -/
theorem begun_after_told {later earlier : List Event}
    (grounded : Grounded Event.Follows (later ++ .told :: earlier)) :
    (begunClosures later = [] ∧ (HasLooked (later ++ .told :: earlier) → HasLooked earlier)) ∨
      ((∃ closure, begunClosures later = [closure]) ∧ HasLooked earlier ∧
        ¬HasLooked (later ++ .told :: earlier)) := by
  induction later with
  | nil => exact .inl ⟨rfl, id⟩
  | cons event later induction =>
      obtain ⟨follows, grounded⟩ := grounded
      have before := induction grounded
      cases event with
      | looked => exact absurd (List.mem_append_right later List.mem_cons_self) follows.1
      | began closure found =>
          obtain ⟨_, _, looked, _⟩ := follows
          rcases before with ⟨none_begun, looked_before⟩ | ⟨_, _, looked_not⟩
          · refine .inr ⟨⟨closure, ?_⟩, looked_before looked, id⟩
            exact congrArg (closure :: ·) none_begun
          · exact absurd looked looked_not
      | _ => exact before

theorem Sound.accepted_of_began (sound : driver.Sound) {closure : Nat}
    (began : closure ∈ begunClosures driver.history) :
    .submitted (.inl closure) true ∈ driver.history := by
  rw [← mem_acceptedClosures, sound.ordered.accepted_eq]
  exact List.mem_append_right _ began

theorem Sound.accepted_of_polled (sound : driver.Sound) {future : Nat}
    (polled : .polled future ∈ driver.history) :
    .submitted (.inr future) true ∈ driver.history := by
  obtain ⟨later, earlier, history_eq⟩ := List.append_of_mem polled
  have grounded := sound.grounded
  rw [history_eq] at grounded ⊢
  exact List.mem_append_right _ (List.mem_cons_of_mem _ grounded.of_append.1)

/-- Whoever has a handle is answered. -/
theorem Sound.answers (sound : driver.Sound) (some_handle : driver.handles ≠ 0)
    (job : Nat ⊕ Nat) :
    ∃ accepted, (driver.call (·.submit job (if driver.context.accepts then
        ({ driver.context with jobs := driver.context.jobs ++ [job] }, true)
      else (driver.context, false)))).history = .submitted job accepted :: driver.history ∧
      (accepted = true ↔ IsOpen driver.history) := by
  refine ⟨driver.context.accepts, ?_, sound.isOpen_iff⟩
  rw [Driver.call, if_neg some_handle]
  cases driver.context.accepts with
  | true => rfl
  | false => rfl

/-- What a context runs, and what it does not. -/
structure Disciplined (driver : Driver) : Prop where
  grounded : Grounded Event.Follows driver.history
  /-- Whoever has a handle is told whether the context is open and has a driver. -/
  executes : driver.handles ≠ 0 → ∃ accepted,
    (driver.step .execute).history = .submitted (.inl driver.next) accepted :: driver.history ∧
      (accepted = true ↔ IsOpen driver.history)
  spawns : driver.handles ≠ 0 → ∃ accepted,
    (driver.step .spawn).history = .submitted (.inr driver.next) accepted :: driver.history ∧
      (accepted = true ↔ IsOpen driver.history)
  /-- A close by somebody who has a handle closes the context, unless it was closed before. -/
  closes : driver.handles ≠ 0 → .close true ∉ driver.history → ∀ caller,
    (caller = .inside → driver.work.isBusy = true) →
      (driver.step (.close caller)).history = .close true :: driver.history
  /-- Every closure is accepted once at most. -/
  accepted_once : (acceptedClosures driver.history).Nodup
  /-- The closures that have begun are the first that were accepted, in the same order. -/
  in_order : begunClosures driver.history <:+ acceptedClosures driver.history
  /-- All of them have ended, but for one that may be running. -/
  one_at_a_time :
    begunClosures driver.history = driver.work.closures ++ endedClosures driver.history
  /-- As long as there is a handle to the context, closures find it when they begin. -/
  on_context : driver.handles ≠ 0 → ∀ closure, .began closure false ∉ driver.history
  refused_closure : ∀ closure, .submitted (.inl closure) false ∈ driver.history →
    closure ∉ begunClosures driver.history
  refused_future : ∀ future, .submitted (.inr future) false ∈ driver.history →
    .polled future ∉ driver.history
  /-- After the driver was told to stop no closure begins, but for one if the driver had looked
  before. -/
  cut_off : ∀ later earlier, driver.history = later ++ .told :: earlier →
    begunClosures later = [] ∨
      (∃ closure, begunClosures later = [closure]) ∧ HasLooked earlier
  /-- After what runs on the driver has closed the context no closure begins, if no hook panics. -/
  last : driver.handles ≠ 0 → .close true ∉ driver.history → driver.work.isBusy = true →
    ∀ actions, .hookPanics ∉ actions →
      begunClosures ((driver.step (.close .inside)).run actions).history =
        begunClosures driver.history
  /-- A closure that has closed the context returns when the hooks have returned. -/
  finishes : ∀ closure, driver.work = .closure closure → ∀ hooks, driver.hooksLeft ≤ hooks →
    ∀ completes, .returned closure ∈
      (driver.run (List.replicate hooks .advance ++ [.goOn completes])).history
  /-- Once the driver has stopped, all that had begun have ended and the others were dropped. -/
  settled : .stopped ∈ driver.history →
    begunClosures driver.history = endedClosures driver.history ∧
      acceptedClosures driver.history =
        droppedClosures driver.history ++ begunClosures driver.history
  /-- As long as the context is open, those that wait begin if it is let alone. -/
  begins_all : IsOpen driver.history → ∀ returns, driver.depth ≤ returns.length →
    begunClosures (driver.run (rounds returns driver.context.jobs.length)).history =
      acceptedClosures driver.history
  /-- Once it was closed, and if no hook panics, the driver stops if it is let alone and begins at
  most the closure for which it has looked. -/
  stops : .close true ∈ driver.history → Calm driver.history →
    ∀ hooks, driver.hooksLeft ≤ hooks → ∀ returns, driver.depth ≤ returns.length →
      .stopped ∈ (driver.run (List.replicate hooks .advance ++ rounds returns 2)).history ∧
        driver.OneMore (driver.run (List.replicate hooks .advance ++ rounds returns 2)) ∧
        acceptedClosures
            (driver.run (List.replicate hooks .advance ++ rounds returns 2)).history =
          acceptedClosures driver.history

/-- Whatever is called on a context, and from wherever, it runs what it has accepted and nothing
else, in order and one at a time, until its driver is told to stop or gone. -/
theorem run_disciplined (kind : ContextKind) (actions : List Action) :
    ((start kind).run actions).Disciplined := by
  have sound := (sound_start kind).run actions
  generalize (start kind).run actions = driver at sound
  have ⟨grounded, ordered, booked, flagged, _⟩ := sound
  refine
    { grounded
      executes := fun some_handle => sound.answers some_handle (.inl driver.next)
      spawns := fun some_handle => sound.answers some_handle (.inr driver.next)
      closes := ?_
      accepted_once := booked.nodup
      in_order := ⟨_, ordered.accepted_eq.symm⟩
      one_at_a_time := ordered.begun_eq
      on_context := flagged.found
      refused_closure := fun closure refused began =>
        booked.once _ refused (sound.accepted_of_began began)
      refused_future := fun future refused polled =>
        booked.once _ refused (sound.accepted_of_polled polled)
      cut_off := ?_
      last := fun some_handle still_open busy _ => sound.last some_handle still_open busy
      finishes := fun _ running _ enough => driver.finishes running enough
      settled := ?_
      begins_all := fun is_open _ enough => sound.begins_all is_open enough
      stops := fun closed calm _ enough_hooks _ => sound.stops closed calm enough_hooks }
  · intro some_handle still_open caller calls
    rw [sound.closes_first some_handle still_open calls, Driver.note]
  · intro later earlier history_eq
    rw [history_eq] at grounded
    exact (begun_after_told grounded).imp And.left (And.imp_right And.left)
  · intro stopped
    obtain ⟨jobs, work, -⟩ := flagged.cleared (flagged.stopped_iff.mpr stopped)
    have begun_eq := ordered.begun_eq
    have accepted_eq := ordered.accepted_eq
    rw [work] at begun_eq
    rw [jobs] at accepted_eq
    exact ⟨begun_eq, accepted_eq⟩

/-- A closure begins after somebody else has closed the context, another after the hook of a close
has panicked, and one after the driver was told to stop.  A closure that is left when the last
handle is dropped does not find its context. -/
theorem begins_after_close :
    let overtaken := (start .eventLoop).run [.execute, .close .outside, .look, .take]
    let broken := (start .eventLoop).run
      [.addHook, .execute, .execute, .look, .take, .close .inside, .advance, .hookPanics,
        .goOn true, .look, .take]
    let told := (start .eventLoop).run [.execute, .look, .close .outside, .advance, .take]
    let released := (start .eventLoop).run [.execute, .dropHandle, .look, .take]
    (∃ later earlier, overtaken.history = later ++ .close true :: earlier ∧
      begunClosures later = [0]) ∧
    (∃ later earlier, broken.history = later ++ .close true :: earlier ∧
      begunClosures later = [2]) ∧
    (∃ later earlier, told.history = later ++ .told :: earlier ∧ begunClosures later = [0]) ∧
    .began 0 false ∈ released.history :=
  ⟨⟨[.began 0 true, .looked], _, rfl, rfl⟩,
    ⟨[.began 2 true, .looked, .returned 1, .hookPanicked 0, .ranHook 0], _, rfl, rfl⟩,
    ⟨[.began 0 true], _, rfl, rfl⟩, List.mem_cons_self⟩

/-- A closure that closes its context returns, and the one that waits behind it is dropped. -/
example :
    let driver := (start .eventLoop).run
      [.execute, .execute, .look, .take, .close .inside, .look, .execute, .advance, .goOn true,
        .look]
    begunClosures driver.history = [0] ∧ returnedClosures driver.history = [0] ∧
      droppedClosures driver.history = [1] ∧ acceptedClosures driver.history = [1, 0] := by
  decide

end Courier.Driver
