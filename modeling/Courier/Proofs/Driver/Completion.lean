import Mathlib.Data.List.Nodup
import Courier.Proofs.Driver.Course

/-!
# Work that is not lost

Without a close a driver stops only when nobody can submit to its context any more, and by then all
that was accepted has run.  Dropping the last handle takes nothing from what waits or goes on.
-/

namespace Courier.Driver

variable {driver : Driver} {event : Event} {history : List Event} {jobs rest : List (Nat ⊕ Nat)}
  {running : List Nat} {job : Nat ⊕ Nat} {closure future : Nat}

/-! ## Jobs and futures in a record -/

def Event.acceptedJob? : Event → Option (Nat ⊕ Nat)
  | .submitted job true => some job
  | _ => none

/-- The closures and futures that were accepted, the latest first. -/
def acceptedJobs (history : List Event) : List (Nat ⊕ Nat) :=
  history.filterMap Event.acceptedJob?

/-- The futures that wait among jobs. -/
def spawned (jobs : List (Nat ⊕ Nat)) : List Nat := jobs.filterMap Sum.getRight?

/-- The futures that were accepted. -/
def acceptedFutures (history : List Event) : List Nat := spawned (acceptedJobs history)

def Event.completed? : Event → Option Nat
  | .completed future => some future
  | _ => none

/-- The futures that are complete. -/
def completedFutures (history : List Event) : List Nat := history.filterMap Event.completed?

/-- Whether an event costs a context work, or belongs to a close. -/
def Event.isLoss : Event → Bool
  | .submitted _ false | .panicked _ | .dropped _ | .close true | .ranHook _ => true
  | _ => false

theorem mem_acceptedJobs : job ∈ acceptedJobs history ↔ .submitted job true ∈ history := by
  constructor
  · intro job_mem
    obtain ⟨event, event_mem, accepted⟩ := List.mem_filterMap.mp job_mem
    cases event with
    | submitted other answer =>
        cases answer with
        | false => cases accepted
        | true =>
            cases accepted
            exact event_mem
    | _ => cases accepted
  · exact fun submitted => List.mem_filterMap.mpr ⟨_, submitted, rfl⟩

theorem spawned_append (jobs more : List (Nat ⊕ Nat)) :
    spawned (jobs ++ more) = spawned jobs ++ spawned more :=
  List.filterMap_append

theorem spawned_nodup (once : jobs.Nodup) : (spawned jobs).Nodup := by
  refine List.Nodup.filterMap (fun first second future first_eq second_eq => ?_) once
  cases first with
  | inl closure => cases first_eq
  | inr first =>
      cases second with
      | inl closure => cases second_eq
      | inr second =>
          cases first_eq
          cases second_eq
          rfl

/-! ## Accounts of the jobs -/

/-- What waits was accepted last, and every future that was accepted waits, goes on or is
complete. -/
structure Accounted (jobs : List (Nat ⊕ Nat)) (running : List Nat) (history : List Event) :
    Prop where
  queued : jobs.reverse <+: acceptedJobs history
  accepted_once : (acceptedJobs history).Nodup
  futures_perm :
    (acceptedFutures history).Perm (spawned jobs ++ running ++ completedFutures history)
  in_order : (running ++ spawned jobs).Sublist (acceptedFutures history).reverse

theorem Accounted.note (accounted : Accounted jobs running history)
    (accepts_none : event.acceptedJob? = none) (completes_none : event.completed? = none) :
    Accounted jobs running (event :: history) := by
  have accepted_eq : acceptedJobs (event :: history) = acceptedJobs history :=
    List.filterMap_cons_none accepts_none
  have completed_eq : completedFutures (event :: history) = completedFutures history :=
    List.filterMap_cons_none completes_none
  obtain ⟨queued, accepted_once, futures_perm, in_order⟩ := accounted
  constructor
  · rwa [accepted_eq]
  · rwa [accepted_eq]
  · rwa [acceptedFutures, accepted_eq, completed_eq]
  · rwa [acceptedFutures, accepted_eq]

/-- A job that is accepted waits behind the others. -/
theorem Accounted.submit (accounted : Accounted jobs running history)
    (fresh : .submitted job true ∉ history) :
    Accounted (jobs ++ [job]) running (.submitted job true :: history) := by
  obtain ⟨queued, accepted_once, futures_perm, in_order⟩ := accounted
  have accepted_eq : acceptedJobs (.submitted job true :: history) = job :: acceptedJobs history :=
    rfl
  have futures_eq : acceptedFutures (.submitted job true :: history) =
      spawned [job] ++ acceptedFutures history :=
    spawned_append [job] (acceptedJobs history)
  refine ⟨?_, ?_, ?_, ?_⟩
  · rw [List.reverse_append, accepted_eq]
    exact (List.prefix_cons_inj job).mpr queued
  · rw [accepted_eq]
    have job_notMem : job ∉ acceptedJobs history := fun job_mem =>
      fresh (mem_acceptedJobs.mp job_mem)
    exact List.nodup_cons.mpr ⟨job_notMem, accepted_once⟩
  · have moved : (spawned [job] ++ (spawned jobs ++ running)).Perm
        (spawned jobs ++ spawned [job] ++ running) := by
      rw [← List.append_assoc]
      exact List.perm_append_comm.append_right running
    rw [futures_eq, spawned_append]
    refine (futures_perm.append_left (spawned [job])).trans ?_
    rw [← List.append_assoc]
    exact moved.append_right (completedFutures history)
  · have last : (spawned [job]).reverse = spawned [job] := by
      cases job <;> rfl
    rw [futures_eq, spawned_append, ← List.append_assoc, List.reverse_append, last]
    exact in_order.append_right (spawned [job])

theorem Accounted.queued_rest (accounted : Accounted (job :: rest) running history) :
    rest.reverse <+: acceptedJobs history := by
  have queued := accounted.queued
  rw [List.reverse_cons] at queued
  exact (List.prefix_append rest.reverse [job]).trans queued

/-- The first closure leaves the others as they are. -/
theorem Accounted.begin (accounted : Accounted (.inl closure :: rest) running history)
    (found : Bool) : Accounted rest running (.began closure found :: history) :=
  Accounted.note ⟨accounted.queued_rest, accounted.accepted_once, accounted.futures_perm,
    accounted.in_order⟩ rfl rfl

/-- A future that is taken over goes on behind the others. -/
theorem Accounted.adopt (accounted : Accounted (.inr future :: rest) running history) :
    Accounted rest (running ++ [future]) history := by
  have first : spawned (.inr future :: rest) = future :: spawned rest := rfl
  refine ⟨accounted.queued_rest, accounted.accepted_once, ?_, ?_⟩
  · have futures_perm := accounted.futures_perm
    rw [first] at futures_perm
    refine futures_perm.trans (List.Perm.append_right _ ?_)
    rw [← List.append_assoc]
    exact List.perm_append_singleton future (spawned rest ++ running) |>.symm
  · rw [List.append_assoc, List.singleton_append, ← first]
    exact accounted.in_order

/-- A future that is complete no longer goes on. -/
theorem Accounted.complete (accounted : Accounted jobs running history)
    (future_mem : future ∈ running) :
    Accounted jobs (running.erase future) (.completed future :: history) := by
  obtain ⟨queued, accepted_once, futures_perm, in_order⟩ := accounted
  refine ⟨queued, accepted_once, ?_, ?_⟩
  · have moved : (running ++ completedFutures history).Perm
        (running.erase future ++ future :: completedFutures history) :=
      ((List.perm_cons_erase future_mem).append_right _).trans List.perm_middle.symm
    refine futures_perm.trans ?_
    rw [List.append_assoc, List.append_assoc]
    exact moved.append_left (spawned jobs)
  · exact ((List.erase_sublist).append_right _).trans in_order

/-! ## The invariant -/

/-- No work is lost as long as the context is not closed and its driver not dropped. -/
structure Lossless (driver : Driver) : Prop where
  accounted : Accounted driver.context.jobs driver.running driver.history
  none_lost : ∀ event ∈ driver.history, event.isLoss = false
  polled_running : ∀ future, driver.work = .futures (some future) → future ∈ driver.running
  abandoned : driver.context.stopped = true → driver.handles = 0

theorem lossless_start (kind : ContextKind) : (start kind).Lossless where
  accounted := ⟨List.prefix_rfl, List.nodup_nil, List.Perm.nil, List.Sublist.slnil⟩
  none_lost := nofun
  polled_running := nofun
  abandoned := nofun

theorem Lossless.lost_notMem (lossless : driver.Lossless) (loss : event.isLoss = true) :
    event ∉ driver.history := fun event_mem =>
  Bool.noConfusion ((lossless.none_lost event event_mem).symm.trans loss)

theorem Lossless.not_closed (lossless : driver.Lossless) (sound : driver.Sound) :
    driver.context.closed = false :=
  Bool.eq_false_iff.mpr fun closed =>
    lossless.lost_notMem rfl (sound.flagged.closed_iff.mp closed)

theorem Lossless.at_rest (lossless : driver.Lossless) (sound : driver.Sound) :
    driver.closing = none ∧ driver.context.stopping = false :=
  sound.at_rest_of_open (lossless.not_closed sound)

/-- What an event adds to a record that says nothing of a loss. -/
theorem Lossless.none_lost_cons (lossless : driver.Lossless) (harmless : event.isLoss = false) :
    ∀ other ∈ event :: driver.history, other.isLoss = false :=
  List.forall_mem_cons.mpr ⟨harmless, lossless.none_lost⟩

theorem Lossless.note (lossless : driver.Lossless) (accepts_none : event.acceptedJob? = none)
    (completes_none : event.completed? = none) (harmless : event.isLoss = false) :
    (driver.note event).Lossless :=
  { lossless with
    accounted := lossless.accounted.note accepts_none completes_none
    none_lost := lossless.none_lost_cons harmless }

/-! ## Calls -/

/-- Who has a handle to a context that is not closed has a driver to submit to. -/
theorem Lossless.accepts (lossless : driver.Lossless) (sound : driver.Sound)
    (held : driver.handles ≠ 0) : driver.context.accepts = true :=
  accepts_iff.mpr ⟨lossless.not_closed sound,
    Bool.eq_false_iff.mpr fun stopped => held (lossless.abandoned stopped)⟩

theorem Lossless.submit (lossless : driver.Lossless) (sound : driver.Sound)
    (held : driver.handles ≠ 0) (new : identity job = driver.next) :
    (driver.submit job (if driver.context.accepts then
      ({ driver.context with jobs := driver.context.jobs ++ [job] }, true)
    else (driver.context, false))).Lossless := by
  have fresh : .submitted job true ∉ driver.history := fun submitted =>
    Nat.ne_of_lt (sound.booked.identity_lt job true submitted) new
  rw [if_pos (lossless.accepts sound held)]
  exact { lossless with
    accounted := lossless.accounted.submit fresh
    none_lost := lossless.none_lost_cons rfl }

theorem Lossless.addHook (lossless : driver.Lossless) : driver.addHook.Lossless := by
  have noted : (driver.note (.registered driver.next)).Lossless := lossless.note rfl rfl rfl
  exact { noted with }

theorem Lossless.removeHook (lossless : driver.Lossless) (hook : Nat) :
    (driver.removeHook hook).Lossless := by
  have noted : (driver.note (.removed hook (driver.context.removeHook hook).2)).Lossless :=
    lossless.note rfl rfl rfl
  exact { noted with }

theorem Lossless.call (lossless : driver.Lossless) (effect : Driver → Driver)
    (effect_lossless : driver.handles ≠ 0 → (effect driver).Lossless) :
    (driver.call effect).Lossless := by
  rw [Driver.call]
  split
  · exact lossless
  · exact effect_lossless ‹_›

theorem Lossless.dropHandle (lossless : driver.Lossless) : driver.dropHandle.Lossless := by
  rw [Driver.dropHandle]
  split
  · exact lossless
  · refine { lossless with abandoned := fun stopped => ?_ }
    rw [lossless.abandoned stopped]

/-! ## Turns -/

theorem Lossless.goOn (lossless : driver.Lossless) (sound : driver.Sound) (completes : Bool) :
    (driver.goOn completes).Lossless := by
  have not_held := isHeld_of_closing (lossless.at_rest sound).1
  rw [Driver.goOn, if_neg (by simp [not_held])]
  cases work : driver.work with
  | idle => exact lossless
  | taking => exact lossless
  | closure closure =>
      have noted : (driver.note (.returned closure)).Lossless := lossless.note rfl rfl rfl
      exact { noted with polled_running := by simp }
  | futures polled =>
      cases polled with
      | none => exact lossless
      | some future =>
          have future_mem := lossless.polled_running future work
          cases completes with
          | false => exact { lossless with polled_running := by simp }
          | true =>
              exact { lossless with
                accounted := lossless.accounted.complete future_mem
                none_lost := lossless.none_lost_cons rfl
                polled_running := by simp }

theorem Lossless.poll (lossless : driver.Lossless) (future : Nat) :
    (driver.poll future).Lossless := by
  rw [Driver.poll]
  split
  · rename_i ready
    have noted : (driver.note (.polled future)).Lossless := lossless.note rfl rfl rfl
    refine { noted with polled_running := ?_ }
    rintro other ⟨⟩
    exact ready.2
  · exact lossless

/-- A driver that has nothing left and nobody to submit to it drops nothing when it stops. -/
theorem Lossless.halt (lossless : driver.Lossless) (no_jobs : driver.context.jobs = [])
    (no_handles : driver.handles = 0) (no_futures : driver.running = []) :
    driver.halt.Lossless := by
  have history_eq : driver.halt.history = .stopped :: driver.history := by
    rw [Driver.halt, Context.halt, no_jobs, no_futures]
    rfl
  have accounted := lossless.accounted
  rw [no_jobs, no_futures] at accounted
  refine ⟨?_, ?_, by simp [Driver.halt], fun _ => no_handles⟩
  · rw [history_eq]
    exact accounted.note rfl rfl
  · rw [history_eq]
    exact lossless.none_lost_cons rfl

theorem Lossless.look (lossless : driver.Lossless) (sound : driver.Sound) :
    driver.look.Lossless := by
  rw [look_eq (lossless.at_rest sound).2]
  split
  · have noted : (driver.note .looked).Lossless := lossless.note rfl rfl rfl
    exact { noted with polled_running := by simp }
  · exact lossless

theorem Lossless.take (lossless : driver.Lossless) : driver.take.Lossless := by
  have accounted := lossless.accounted
  rw [Driver.take]
  split
  · rw [Context.take?]
    cases jobs_eq : driver.context.jobs with
    | nil =>
        dsimp only
        split
        · rename_i done
          exact lossless.halt jobs_eq done.1 done.2
        · exact { lossless with polled_running := by simp }
    | cons job rest =>
        rw [jobs_eq] at accounted
        cases job with
        | inl closure =>
            exact { lossless with
              accounted := accounted.begin _
              none_lost := lossless.none_lost_cons rfl
              polled_running := by simp }
        | inr future =>
            exact { lossless with
              accounted := accounted.adopt
              polled_running := by simp }
  · exact lossless

/-! ## Runs -/

theorem Lossless.step (lossless : driver.Lossless) (sound : driver.Sound) {action : Action}
    (closes_not : ∀ caller, action ≠ .close caller) (drops_not : action ≠ .shutDown) :
    (driver.step action).Lossless := by
  have closing := (lossless.at_rest sound).1
  cases action with
  | execute => exact lossless.call _ fun held => lossless.submit sound held rfl
  | spawn => exact lossless.call _ fun held => lossless.submit sound held rfl
  | addHook => exact lossless.call _ fun _ => lossless.addHook
  | removeHook hook => exact lossless.call (·.removeHook hook) fun _ => lossless.removeHook hook
  | close caller => exact absurd rfl (closes_not caller)
  | clone =>
      exact lossless.call (fun driver => { driver with handles := driver.handles + 1 })
        fun held => { lossless with
          abandoned := fun stopped => absurd (lossless.abandoned stopped) held }
  | dropHandle => exact lossless.dropHandle
  | goOn completes => exact lossless.goOn sound completes
  | poll future => exact lossless.poll future
  | look => exact lossless.look sound
  | take => exact lossless.take
  | advance =>
      rw [Driver.step, Driver.advance, closing]
      exact lossless
  | hookPanics =>
      rw [Driver.step, Driver.hookPanics, closing]
      exact lossless
  | shutDown => exact absurd rfl drops_not

theorem Lossless.run (lossless : driver.Lossless) (sound : driver.Sound) {actions : List Action}
    (never_closed : ∀ caller, .close caller ∉ actions) (never_dropped : .shutDown ∉ actions) :
    (driver.run actions).Lossless := by
  induction actions generalizing driver with
  | nil => exact lossless
  | cons action rest induction =>
      simp only [List.mem_cons, not_or] at never_closed never_dropped
      have stepped := lossless.step sound (fun caller => Ne.symm (never_closed caller).1)
        (Ne.symm never_dropped.1)
      exact induction stepped (sound.step action) (fun caller => (never_closed caller).2)
        never_dropped.2

/-! ## Working off -/

/-- The driver looks for futures, and one after the other goes on and is complete. -/
def completions (futures : List Nat) : List Action :=
  futures.flatMap fun future => [.look, .take, .poll future, .goOn true]

/-- What runs returns, the driver takes what waits, its futures complete, and it has one more
turn. -/
def workingOff (driver : Driver) (returns : List Bool) : List Action :=
  let taking := rounds returns driver.context.jobs.length
  taking ++ (completions (driver.run taking).running ++ [.look, .take])

theorem acceptedJobs_halt (driver : Driver) :
    acceptedJobs driver.halt.history = acceptedJobs driver.history :=
  driver.filterMap_halt (fun _ => rfl) rfl

/-- Nothing happens to a context without handles that would get it a handle or a job. -/
theorem step_without_handles (no_handles : driver.handles = 0) (action : Action) :
    (driver.step action).handles = 0 ∧
      acceptedJobs (driver.step action).history = acceptedJobs driver.history := by
  have no_call : ∀ effect, driver.call effect = driver := fun effect => if_pos no_handles
  cases action with
  | close caller =>
      cases caller with
      | outside =>
          rw [Driver.step, Driver.closeBy, no_call]
          exact ⟨no_handles, rfl⟩
      | inside =>
          rw [Driver.step, Driver.closeBy, no_call, ite_self]
          exact ⟨no_handles, rfl⟩
  | advance =>
      rw [Driver.step, Driver.advance]
      split
      · rename_i closing _
        cases closing.left with
        | nil => exact ⟨no_handles, rfl⟩
        | cons hook left => exact ⟨no_handles, rfl⟩
      · exact ⟨no_handles, rfl⟩
  | hookPanics =>
      rw [Driver.step, Driver.hookPanics]
      split
      · exact ⟨no_handles, rfl⟩
      · exact ⟨no_handles, rfl⟩
  | goOn completes =>
      rw [Driver.step, Driver.goOn]
      split
      · exact ⟨no_handles, rfl⟩
      · split
        · exact ⟨no_handles, rfl⟩
        · split
          · exact ⟨no_handles, rfl⟩
          · exact ⟨no_handles, rfl⟩
        · exact ⟨no_handles, rfl⟩
  | poll future =>
      rw [Driver.step, Driver.poll]
      split
      · exact ⟨no_handles, rfl⟩
      · exact ⟨no_handles, rfl⟩
  | look =>
      rw [Driver.step, Driver.look]
      split
      · split
        · exact ⟨no_handles, driver.acceptedJobs_halt⟩
        · exact ⟨no_handles, rfl⟩
      · exact ⟨no_handles, rfl⟩
  | take =>
      rw [Driver.step, Driver.take]
      split
      · split
        · exact ⟨no_handles, rfl⟩
        · exact ⟨no_handles, rfl⟩
        · split
          · exact ⟨no_handles, driver.acceptedJobs_halt⟩
          · exact ⟨no_handles, rfl⟩
      · exact ⟨no_handles, rfl⟩
  | shutDown =>
      rw [Driver.step, Driver.shutDown]
      split
      · exact ⟨no_handles, rfl⟩
      · split
        · exact ⟨no_handles, rfl⟩
        · exact ⟨no_handles, (driver.note _).acceptedJobs_halt⟩
        · exact ⟨no_handles, driver.acceptedJobs_halt⟩
  | dropHandle =>
      rw [Driver.step, Driver.dropHandle]
      split
      · exact ⟨no_handles, rfl⟩
      · exact ⟨Nat.sub_eq_zero_of_le (no_handles ▸ Nat.zero_le 1), rfl⟩
  | _ =>
      rw [Driver.step, no_call]
      exact ⟨no_handles, rfl⟩

theorem run_without_handles (no_handles : driver.handles = 0) (actions : List Action) :
    (driver.run actions).handles = 0 ∧
      acceptedJobs (driver.run actions).history = acceptedJobs driver.history := by
  induction actions generalizing driver with
  | nil => exact ⟨no_handles, rfl⟩
  | cons action rest induction =>
      obtain ⟨still_none, accepted_eq⟩ := step_without_handles no_handles action
      obtain ⟨none_after, accepted_after⟩ := induction still_none
      exact ⟨none_after, accepted_after.trans accepted_eq⟩

/-- A look that finds no reason to stop leaves the handles and the futures as they are. -/
theorem look_keeps (waits : driver.context.stopping = false) :
    driver.look.handles = driver.handles ∧ driver.look.running = driver.running := by
  rw [look_eq waits]
  split
  · exact ⟨rfl, rfl⟩
  · exact ⟨rfl, rfl⟩

/-- With its next turn a driver stops that has nothing left and nobody to submit to it. -/
theorem Sound.turn_stops (sound : driver.Sound) (free : driver.depth = 0)
    (waits : driver.context.stopping = false) (no_jobs : driver.context.jobs = [])
    (no_handles : driver.handles = 0) (no_futures : driver.running = []) :
    driver.look.take.context.stopped = true := by
  cases stopped : driver.context.stopped with
  | true =>
      obtain ⟨looks, takes, -⟩ := sound.round_stopped stopped
      rw [looks, takes]
      exact stopped
  | false =>
      obtain ⟨taking, left_alone⟩ := look_going free stopped waits
      obtain ⟨handles_eq, running_eq⟩ := look_keeps waits
      have done : driver.look.handles = 0 ∧ driver.look.running = [] :=
        ⟨handles_eq.trans no_handles, running_eq.trans no_futures⟩
      rw [Driver.take, if_pos taking, Context.take?, left_alone.context_eq, no_jobs]
      dsimp only
      rw [if_pos done]
      rfl

/-- The first future goes on and is complete. -/
theorem completes_first (taking : driver.work = .taking) (closing : driver.closing = none)
    (no_jobs : driver.context.jobs = []) {rest : List Nat}
    (running_eq : driver.running = future :: rest) :
    (driver.take.poll future).goOn true =
      { (driver.note (.polled future)).note (.completed future) with
        work := .idle
        running := rest } := by
  have takes : driver.take = { driver with work := .futures none } := by
    rw [Driver.take, if_pos taking, Context.take?, no_jobs]
    dsimp only
    rw [if_neg (by simp [running_eq])]
  have polls : driver.take.poll future =
      { driver.note (.polled future) with work := .futures (some future) } := by
    rw [takes, Driver.poll, if_pos]
    · rfl
    · exact ⟨rfl, by simp [running_eq]⟩
  rw [polls, Driver.goOn]
  simp [Driver.note, isHeld, closing, running_eq]

/-- A driver with nothing but futures, and nobody to submit to it, stops when they are complete. -/
theorem Sound.completions_stop (sound : driver.Sound) (free : driver.depth = 0)
    (not_closed : driver.context.closed = false) (no_jobs : driver.context.jobs = [])
    (no_handles : driver.handles = 0) :
    (driver.run (completions driver.running ++ [.look, .take])).context.stopped = true := by
  generalize running_eq : driver.running = running
  induction running generalizing driver with
  | nil =>
      have waits := (sound.at_rest_of_open not_closed).2
      exact sound.turn_stops free waits no_jobs no_handles running_eq
  | cons future rest induction =>
      have going : driver.context.stopped = false := Bool.eq_false_iff.mpr fun stopped =>
        List.cons_ne_nil future rest (running_eq.symm.trans (sound.flagged.cleared stopped).2.2)
      obtain ⟨closing, waits⟩ := sound.at_rest_of_open not_closed
      obtain ⟨taking, left_alone⟩ := look_going free going waits
      obtain ⟨handles_eq, running_same⟩ := look_keeps waits
      have context_eq := left_alone.context_eq
      have completes := completes_first taking (left_alone.closing_eq.trans closing)
        ((congrArg Context.jobs context_eq).trans no_jobs) (running_same.trans running_eq)
      have left_sound := (sound.look.take.poll future).goOn true
      rw [completes] at left_sound
      have run_eq : driver.run (completions (future :: rest) ++ [.look, .take]) =
          ((driver.look.take.poll future).goOn true).run (completions rest ++ [.look, .take]) := rfl
      rw [run_eq, completes]
      exact induction left_sound rfl ((congrArg Context.closed context_eq).trans not_closed)
        ((congrArg Context.jobs context_eq).trans no_jobs) (handles_eq.trans no_handles) rfl

/-- Whether an action is the driver's own, and no call. -/
def Action.isOwn : Action → Bool
  | .goOn _ | .poll _ | .look | .take => true
  | _ => false

theorem rounds_own (returns : List Bool) (turns : Nat) :
    ∀ action ∈ rounds returns turns, action.isOwn = true := by
  intro action action_mem
  rcases List.mem_append.mp action_mem with returning | turning
  · obtain ⟨completes, -, rfl⟩ := List.mem_map.mp returning
    rfl
  · obtain ⟨round, round_mem, action_mem⟩ := List.mem_flatten.mp turning
    rw [List.eq_of_mem_replicate round_mem] at action_mem
    have round_own : ∀ action ∈ [Action.look, .take, .goOn true], action.isOwn = true := by
      simp [Action.isOwn]
    exact round_own action action_mem

theorem completions_own (futures : List Nat) :
    ∀ action ∈ completions futures, action.isOwn = true := by
  intro action action_mem
  obtain ⟨future, -, action_mem⟩ := List.mem_flatMap.mp action_mem
  have completion_own : ∀ action ∈ [Action.look, .take, .poll future, .goOn true],
      action.isOwn = true := by
    simp [Action.isOwn]
  exact completion_own action action_mem

theorem workingOff_own (driver : Driver) (returns : List Bool) :
    ∀ action ∈ driver.workingOff returns, action.isOwn = true := by
  intro action action_mem
  rcases List.mem_append.mp action_mem with taking | completing
  · exact rounds_own _ _ action taking
  · rcases List.mem_append.mp completing with completing | last
    · exact completions_own _ action completing
    · have turn_own : ∀ action ∈ [Action.look, .take], action.isOwn = true := by
        simp [Action.isOwn]
      exact turn_own action last

theorem Lossless.run_own (lossless : driver.Lossless) (sound : driver.Sound)
    {actions : List Action} (own : ∀ action ∈ actions, action.isOwn = true) :
    (driver.run actions).Lossless :=
  lossless.run sound (fun _ closed => Bool.noConfusion (own _ closed))
    fun dropped => Bool.noConfusion (own _ dropped)

/-- A driver that nobody can submit to works off what it has, and stops. -/
theorem Lossless.workingOff_stops (lossless : driver.Lossless) (sound : driver.Sound)
    (no_handles : driver.handles = 0) {returns : List Bool}
    (enough : driver.depth ≤ returns.length) :
    (driver.run (driver.workingOff returns)).context.stopped = true := by
  obtain ⟨left_alone, depth_eq, -⟩ := leftAlone_goOns (lossless.at_rest sound).1 returns
  have free : (driver.run (returns.map .goOn)).depth = 0 := by omega
  have not_closed :=
    (congrArg Context.closed left_alone.context_eq).trans (lossless.not_closed sound)
  obtain ⟨depth_zero, context_eq, -⟩ :=
    (sound.run (returns.map .goOn)).rounds_take free not_closed
  rw [left_alone.context_eq, ← run_rounds] at depth_zero context_eq
  have settled_sound := sound.run (rounds returns driver.context.jobs.length)
  have settled_lossless := lossless.run_own sound (rounds_own returns driver.context.jobs.length)
  have run_eq : driver.run (driver.workingOff returns) = _ := List.foldl_append
  rw [run_eq]
  exact settled_sound.completions_stop depth_zero (settled_lossless.not_closed settled_sound)
    (congrArg Context.jobs context_eq) (run_without_handles no_handles _).1

/-! ## Whole runs -/

theorem acceptedClosures_eq (history : List Event) :
    acceptedClosures history = waiting (acceptedJobs history) := by
  rw [acceptedClosures, acceptedJobs, waiting, List.filterMap_filterMap]
  congr 1
  funext event
  cases event with
  | submitted job answer => cases job <;> cases answer <;> rfl
  | _ => rfl

/-- The closures that were accepted and have not begun wait. -/
theorem Lossless.accepted_eq (lossless : driver.Lossless) (sound : driver.Sound) :
    acceptedClosures driver.history =
      (waiting driver.context.jobs).reverse ++ begunClosures driver.history := by
  have none_dropped : droppedClosures driver.history = [] := by
    refine List.filterMap_eq_nil_iff.mpr fun event event_mem => ?_
    have harmless := lossless.none_lost event event_mem
    cases event with
    | dropped job => cases harmless
    | _ => rfl
  have accepted_eq := sound.ordered.accepted_eq
  rwa [none_dropped, List.append_nil] at accepted_eq

/-- No closure has panicked. -/
theorem Lossless.ended_eq (lossless : driver.Lossless) :
    endedClosures driver.history = returnedClosures driver.history := by
  refine List.filterMap_congr fun event event_mem => ?_
  have harmless := lossless.none_lost event event_mem
  cases event with
  | panicked closure => cases harmless
  | _ => rfl

/-- Nobody has a handle, and all that was accepted has run, every closure and every future once. -/
structure Finished (driver : Driver) : Prop where
  no_handles : driver.handles = 0
  begun_eq : begunClosures driver.history = acceptedClosures driver.history
  returned_eq : returnedClosures driver.history = acceptedClosures driver.history
  returned_once : (returnedClosures driver.history).Nodup
  completed_perm : (completedFutures driver.history).Perm (acceptedFutures driver.history)
  completed_once : (completedFutures driver.history).Nodup

theorem Lossless.finished (lossless : driver.Lossless) (sound : driver.Sound)
    (stopped : driver.context.stopped = true) : driver.Finished := by
  obtain ⟨no_jobs, idle, no_futures⟩ := sound.flagged.cleared stopped
  have accepted_eq := lossless.accepted_eq sound
  have begun_eq := sound.ordered.begun_eq
  have futures_perm := lossless.accounted.futures_perm
  rw [no_jobs] at accepted_eq
  rw [idle] at begun_eq
  rw [no_jobs, no_futures] at futures_perm
  have returned_eq : returnedClosures driver.history = acceptedClosures driver.history := by
    rw [← lossless.ended_eq]
    exact begun_eq.symm.trans accepted_eq.symm
  exact
    { no_handles := lossless.abandoned stopped
      begun_eq := accepted_eq.symm
      returned_eq
      returned_once := returned_eq.symm ▸ sound.booked.nodup
      completed_perm := futures_perm.symm
      completed_once := futures_perm.nodup (spawned_nodup lossless.accounted.accepted_once) }

/-- What a context does that was not closed. -/
structure LosesNothing (driver : Driver) : Prop where
  none_refused : ∀ job, .submitted job false ∉ driver.history
  none_dropped : ∀ job, .dropped job ∉ driver.history
  no_hook_run : ∀ hook, .ranHook hook ∉ driver.history
  /-- What waits was accepted last, in the same order. -/
  queued : driver.context.jobs.reverse <+: acceptedJobs driver.history
  /-- The closures begin in the order in which they were accepted. -/
  closures_in_order :
    acceptedClosures driver.history =
      (waiting driver.context.jobs).reverse ++ begunClosures driver.history
  /-- Every future that was accepted is complete, goes on or waits. -/
  futures_kept :
    (acceptedFutures driver.history).Perm
      (spawned driver.context.jobs ++ driver.running ++ completedFutures driver.history)
  /-- Those that are not complete stand in the order in which they were accepted. -/
  futures_in_order :
    (driver.running ++ spawned driver.context.jobs).Sublist
      (acceptedFutures driver.history).reverse
  /-- The driver does not stop before all of it has run. -/
  finished : .stopped ∈ driver.history → driver.Finished
  /-- When the last handle is gone the driver stops if it is let alone, and all that was accepted
  until then has run. -/
  works_off : driver.handles = 0 → ∀ returns, driver.depth ≤ returns.length →
    .stopped ∈ (driver.run (driver.workingOff returns)).history ∧
      returnedClosures (driver.run (driver.workingOff returns)).history =
        acceptedClosures driver.history ∧
      (completedFutures (driver.run (driver.workingOff returns)).history).Perm
        (acceptedFutures driver.history)

/-- As long as a context is not closed and its driver not dropped, nothing that it has accepted is
lost, whenever its handles are dropped. -/
theorem run_loses_nothing (kind : ContextKind) (actions : List Action)
    (never_closed : ∀ caller, .close caller ∉ actions) (never_dropped : .shutDown ∉ actions) :
    ((start kind).run actions).LosesNothing := by
  have sound := (sound_start kind).run actions
  have lossless := (lossless_start kind).run (sound_start kind) never_closed never_dropped
  generalize (start kind).run actions = driver at sound lossless
  have ⟨queued, _, futures_kept, futures_in_order⟩ := lossless.accounted
  refine
    { none_refused := fun job => lossless.lost_notMem rfl
      none_dropped := fun job => lossless.lost_notMem rfl
      no_hook_run := fun hook => lossless.lost_notMem rfl
      queued, futures_kept, futures_in_order
      closures_in_order := lossless.accepted_eq sound
      finished := fun stopped =>
        lossless.finished sound (sound.flagged.stopped_iff.mpr stopped)
      works_off := ?_ }
  intro no_handles returns enough
  have stopped := lossless.workingOff_stops sound no_handles enough
  have end_sound := sound.run (driver.workingOff returns)
  have end_lossless := lossless.run_own sound (driver.workingOff_own returns)
  have finished := end_lossless.finished end_sound stopped
  obtain ⟨_, accepted_eq⟩ := run_without_handles no_handles (driver.workingOff returns)
  refine ⟨end_sound.flagged.stopped_iff.mp stopped, ?_, ?_⟩
  · rw [finished.returned_eq, acceptedClosures_eq, accepted_eq, ← acceptedClosures_eq]
  · rw [acceptedFutures, ← accepted_eq]
    exact finished.completed_perm

/-- A future that has to wait once and a closure behind it still run when the last handle is gone,
and a hook that was never removed does not. -/
theorem last_handle_leaves_work :
    let actions : List Action := [.addHook, .spawn, .execute, .dropHandle, .look, .take, .look,
      .take, .goOn true, .look, .take, .poll 1, .goOn false, .poll 1, .goOn true, .look, .take]
    let driver := (start .eventLoop).run actions
    ((∀ caller, .close caller ∉ actions) ∧ .shutDown ∉ actions) ∧ driver.LosesNothing ∧
      .stopped ∈ driver.history ∧ returnedClosures driver.history = [2] ∧
      completedFutures driver.history = [1] :=
  ⟨⟨by simp, by simp⟩, run_loses_nothing .eventLoop _ (by simp) (by simp),
    List.Mem.head _, by decide, by decide⟩

end Courier.Driver
