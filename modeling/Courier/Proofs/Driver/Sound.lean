import Courier.Proofs.Driver.Record

/-!
# Sound contexts

The record of a context is held against its flags, its jobs, the close under way and what its driver
is at, whatever is called and whatever returns.
-/

namespace Courier.Driver

variable {driver : Driver} {event : Event} {history : List Event} {jobs : List (Nat ⊕ Nat)}
  {work : Work} {running : List Nat} {next : Nat} {job : Nat ⊕ Nat} {closing : Option Closing}

/-! ## The invariant -/

/-- The closures that wait among jobs. -/
def waiting (jobs : List (Nat ⊕ Nat)) : List Nat := jobs.filterMap Sum.getLeft?

def identity : Nat ⊕ Nat → Nat
  | .inl closure => closure
  | .inr future => future

/-- The closures that were accepted wait, were dropped or have begun, and those that have begun
have ended, but for the one that runs. -/
structure Ordered (jobs : List (Nat ⊕ Nat)) (work : Work) (history : List Event) : Prop where
  begun_eq : begunClosures history = work.closures ++ endedClosures history
  accepted_eq :
    acceptedClosures history =
      (waiting jobs).reverse ++ droppedClosures history ++ begunClosures history
  polled : ∀ future, work = .futures (some future) → .polled future ∈ history
  looked : work = .taking → HasLooked history

/-- Every job was submitted once, and what waits or goes on was accepted. -/
structure Booked (next : Nat) (jobs : List (Nat ⊕ Nat)) (running : List Nat)
    (history : List Event) : Prop where
  identity_lt : ∀ job accepted, .submitted job accepted ∈ history → identity job < next
  once : ∀ job, .submitted job false ∈ history → .submitted job true ∉ history
  nodup : (acceptedClosures history).Nodup
  jobs_accepted : ∀ job ∈ jobs, .submitted job true ∈ history
  running_accepted : ∀ future ∈ running, .submitted (.inr future) true ∈ history

/-- How far the close of a context has come. -/
structure Closes (closing : Option Closing) (history : List Event) : Prop where
  under_way : closing ≠ none → .close true ∈ history ∧ .told ∉ history ∧ Calm history
  hook_ran : ∀ now ∈ closing, ∀ hook ∈ now.hook, .ranHook hook ∈ history
  at_rest : closing = none → Calm history → .close true ∈ history → .told ∈ history
  before : .close true ∉ history → .told ∉ history ∧ Calm history

/-- The flags of a context say what has happened to it. -/
structure Flagged (driver : Driver) : Prop where
  closed_iff : driver.context.closed = true ↔ .close true ∈ driver.history
  stopping_iff : driver.context.stopping = true ↔ .told ∈ driver.history
  stopped_iff : driver.context.stopped = true ↔ .stopped ∈ driver.history
  dropped_eq : driver.context.stopped = false → droppedClosures driver.history = []
  cleared : driver.context.stopped = true →
    driver.context.jobs = [] ∧ driver.work = .idle ∧ driver.running = []
  /-- What has called the close under way still runs. -/
  held : driver.isHeld = true → driver.work.isBusy = true
  found : driver.handles ≠ 0 → ∀ closure, .began closure false ∉ driver.history

structure Sound (driver : Driver) : Prop where
  grounded : Grounded Event.Follows driver.history
  ordered : Ordered driver.context.jobs driver.work driver.history
  booked : Booked driver.next driver.context.jobs driver.running driver.history
  flagged : driver.Flagged
  closes : Closes driver.closing driver.history

theorem sound_start (kind : ContextKind) : (start kind).Sound where
  grounded := trivial
  ordered := ⟨rfl, rfl, nofun, nofun⟩
  booked := ⟨nofun, nofun, List.nodup_nil, nofun, nofun⟩
  flagged := ⟨by simp [start], by simp [start], by simp [start], fun _ => rfl, nofun, nofun,
    fun _ _ => List.not_mem_nil⟩
  closes := ⟨nofun, nofun, nofun, fun _ => ⟨List.not_mem_nil, fun _ => List.not_mem_nil⟩⟩

/-! ## Events that change little -/

/-- Whether an event tells what becomes of a job. -/
def Event.ofJobs : Event → Bool
  | .submitted _ _ | .began _ _ | .returned _ | .panicked _ | .dropped _ => true
  | _ => false

/-- Whether the flags of a context depend on an event. -/
def Event.ofFlags : Event → Bool
  | .close true | .told | .began _ _ | .dropped _ | .stopped => true
  | _ => false

/-- Whether an event tells how far a close has come. -/
def Event.ofClose : Event → Bool
  | .close true | .hookPanicked _ | .told => true
  | _ => false

theorem ne_of_apart {kind : Event → Bool} {one : Event} (apart : kind event = false)
    (of_kind : kind one = true) : one ≠ event := by
  rintro rfl
  exact Bool.noConfusion (of_kind.symm.trans apart)

theorem mem_cons_apart {kind : Event → Bool} (apart : kind event = false) {one : Event}
    (of_kind : kind one = true) : one ∈ event :: history ↔ one ∈ history := by
  rw [List.mem_cons, or_iff_right (ne_of_apart apart of_kind)]

theorem Ordered.note (ordered : Ordered jobs work history) (event : Event)
    (apart : event.ofJobs = false) : Ordered jobs work (event :: history) := by
  obtain ⟨begun_eq, accepted_eq, polled, looked⟩ := ordered
  have polled_now : ∀ future, work = .futures (some future) → .polled future ∈ event :: history :=
    fun future at_it => List.mem_cons_of_mem _ (polled future at_it)
  have looked_now : event.began? = none → work = .taking → HasLooked (event :: history) :=
    fun begins_not taking => (looked taking).cons begins_not
  cases event with
  | submitted job accepted => cases apart
  | began closure found => cases apart
  | returned closure => cases apart
  | panicked closure => cases apart
  | dropped job => cases apart
  | _ => exact ⟨begun_eq, accepted_eq, polled_now, looked_now rfl⟩

theorem Booked.note (booked : Booked next jobs running history) (event : Event)
    (other : ∀ job accepted, event ≠ .submitted job accepted) :
    Booked next jobs running (event :: history) := by
  obtain ⟨identity_lt, once, nodup, jobs_accepted, running_accepted⟩ := booked
  have submitted_iff : ∀ job accepted,
      .submitted job accepted ∈ event :: history ↔ .submitted job accepted ∈ history := by
    intro job accepted
    rw [List.mem_cons, or_iff_right (other job accepted).symm]
  have none_accepted : event.accepted? = none := by
    cases event with
    | submitted job accepted => exact absurd rfl (other job accepted)
    | _ => rfl
  have accepted_eq : acceptedClosures (event :: history) = acceptedClosures history :=
    List.filterMap_cons_none none_accepted
  exact {
    identity_lt := fun job accepted submitted =>
      identity_lt job accepted ((submitted_iff job accepted).mp submitted)
    once := fun job refused accepted =>
      once job ((submitted_iff job false).mp refused) ((submitted_iff job true).mp accepted)
    nodup := accepted_eq ▸ nodup
    jobs_accepted := fun job job_mem => (submitted_iff job true).mpr (jobs_accepted job job_mem)
    running_accepted := fun future future_mem =>
      (submitted_iff (.inr future) true).mpr (running_accepted future future_mem) }

/-- A record that says the same of the close. -/
theorem Closes.of_same (closes : Closes closing history) {later : List Event}
    (closed_iff : .close true ∈ later ↔ .close true ∈ history)
    (told_iff : .told ∈ later ↔ .told ∈ history) (calm_iff : Calm later ↔ Calm history)
    (ran : ∀ hook, .ranHook hook ∈ history → .ranHook hook ∈ later) : Closes closing later := by
  refine ⟨?_, fun now now_mem hook hook_mem => ?_, ?_, ?_⟩
  · rw [closed_iff, told_iff, calm_iff]
    exact closes.under_way
  · exact ran hook (closes.hook_ran now now_mem hook hook_mem)
  · rw [closed_iff, told_iff, calm_iff]
    exact closes.at_rest
  · rw [closed_iff, told_iff, calm_iff]
    exact closes.before

theorem Closes.note (closes : Closes closing history) (event : Event)
    (apart : event.ofClose = false) : Closes closing (event :: history) :=
  closes.of_same (mem_cons_apart apart rfl) (mem_cons_apart apart rfl)
    (calm_cons fun _ => (ne_of_apart apart rfl).symm) fun _ => List.mem_cons_of_mem _

theorem Flagged.note (flagged : driver.Flagged) (event : Event) (apart : event.ofFlags = false) :
    (driver.note event).Flagged where
  closed_iff := flagged.closed_iff.trans (mem_cons_apart apart rfl).symm
  stopping_iff := flagged.stopping_iff.trans (mem_cons_apart apart rfl).symm
  stopped_iff := flagged.stopped_iff.trans (mem_cons_apart apart rfl).symm
  dropped_eq := by
    have drops_not : event.dropped? = none := by
      cases event with
      | dropped job => cases apart
      | _ => rfl
    exact fun going => (List.filterMap_cons_none drops_not).trans (flagged.dropped_eq going)
  cleared := flagged.cleared
  held := flagged.held
  found := fun handles closure began =>
    flagged.found handles closure ((mem_cons_apart apart rfl).mp began)

theorem Flagged.going (flagged : driver.Flagged) (works : driver.work ≠ .idle) :
    driver.context.stopped = false :=
  Bool.eq_false_iff.mpr fun stopped => works (flagged.cleared stopped).2.1

/-- What a driver is at that has not stopped plays no part for the flags, but for a close that holds
it up. -/
theorem Flagged.proceed (flagged : driver.Flagged) (going : driver.context.stopped = false)
    (now : Work) (held : driver.isHeld = true → now.isBusy = true) (jobs : List (Nat ⊕ Nat))
    (left : List Nat) :
    { driver with context := { driver.context with jobs }, work := now, running := left }.Flagged :=
  { flagged with
    cleared := fun stopped => Bool.noConfusion (going.symm.trans stopped)
    held }

theorem Sound.note (sound : driver.Sound) (event : Event)
    (follows : event.Follows driver.history) (no_job : event.ofJobs = false)
    (no_flag : event.ofFlags = false) (no_close : event.ofClose = false) :
    (driver.note event).Sound where
  grounded := ⟨follows, sound.grounded⟩
  ordered := sound.ordered.note event no_job
  booked := sound.booked.note event (by rintro job accepted rfl; cases no_job)
  flagged := sound.flagged.note event no_flag
  closes := sound.closes.note event no_close

/-! ## Calls -/

/-- A new job is submitted. -/
theorem Booked.submit (booked : Booked next jobs running history) (new : identity job = next)
    (answer : Bool) :
    Booked (next + 1) (if answer then jobs ++ [job] else jobs) running
      (.submitted job answer :: history) := by
  obtain ⟨identity_lt, once, nodup, jobs_accepted, running_accepted⟩ := booked
  have fresh : ∀ answer, .submitted job answer ∉ history := by
    intro answer submitted
    have lt := identity_lt job answer submitted
    omega
  refine ⟨?_, ?_, ?_, ?_, ?_⟩
  · intro other accepted submitted
    rcases List.mem_cons.mp submitted with same | before
    · cases same
      omega
    · exact Nat.lt_succ_of_lt (identity_lt other accepted before)
  · intro other refused accepted
    rcases List.mem_cons.mp refused with same | refused_before
    · cases same
      rcases List.mem_cons.mp accepted with same | before
      · cases same
      · exact fresh true before
    · rcases List.mem_cons.mp accepted with same | before
      · cases same
        exact fresh false refused_before
      · exact once other refused_before before
  · cases answer with
    | false => cases job <;> exact nodup
    | true =>
        cases job with
        | inr future => exact nodup
        | inl closure =>
            have closure_notMem : closure ∉ acceptedClosures history := by
              intro closure_mem
              have lt : closure < next := identity_lt _ _ (mem_acceptedClosures.mp closure_mem)
              exact Nat.ne_of_lt lt new
            exact List.nodup_cons.mpr ⟨closure_notMem, nodup⟩
  · intro other other_mem
    cases answer with
    | false => exact List.mem_cons_of_mem _ (jobs_accepted other other_mem)
    | true =>
        rcases List.mem_append.mp other_mem with before | last
        · exact List.mem_cons_of_mem _ (jobs_accepted other before)
        · rw [List.mem_singleton.mp last]
          exact List.mem_cons_self
  · exact fun future future_mem => List.mem_cons_of_mem _ (running_accepted future future_mem)

theorem Ordered.submit (ordered : Ordered jobs work history) (job : Nat ⊕ Nat) (answer : Bool) :
    Ordered (if answer then jobs ++ [job] else jobs) work (.submitted job answer :: history) := by
  obtain ⟨begun_eq, accepted_eq, polled, looked⟩ := ordered
  have polled_now : ∀ future, work = .futures (some future) →
      .polled future ∈ Event.submitted job answer :: history :=
    fun future at_it => List.mem_cons_of_mem _ (polled future at_it)
  have looked_now : work = .taking → HasLooked (.submitted job answer :: history) :=
    fun taking => (looked taking).cons rfl
  cases answer with
  | false => cases job <;> exact ⟨begun_eq, accepted_eq, polled_now, looked_now⟩
  | true =>
      cases job with
      | inl closure =>
          have more : waiting (jobs ++ [.inl closure]) = waiting jobs ++ [closure] :=
            List.filterMap_append
          refine ⟨begun_eq, ?_, polled_now, looked_now⟩
          rw [if_pos rfl, more, List.reverse_append]
          exact congrArg (closure :: ·) accepted_eq
      | inr future =>
          have same : waiting (jobs ++ [.inr future]) = waiting jobs :=
            List.filterMap_append.trans (List.append_nil _)
          refine ⟨begun_eq, ?_, polled_now, looked_now⟩
          rw [if_pos rfl, same]
          exact accepted_eq

theorem accepts_iff {context : Context Nat Nat Unit} :
    context.accepts = true ↔ context.closed = false ∧ context.stopped = false := by
  simp [Context.accepts]

theorem Sound.isOpen_iff (sound : driver.Sound) :
    driver.context.accepts = true ↔ IsOpen driver.history := by
  rw [accepts_iff, IsOpen, ← sound.flagged.closed_iff, ← sound.flagged.stopped_iff]
  simp

theorem Sound.submit (sound : driver.Sound) (new : identity job = driver.next) :
    (driver.submit job (if driver.context.accepts then
      ({ driver.context with jobs := driver.context.jobs ++ [job] }, true)
    else (driver.context, false))).Sound := by
  have open_iff := sound.isOpen_iff
  have ordered := sound.ordered.submit job driver.context.accepts
  have booked := sound.booked.submit new driver.context.accepts
  have flagged := sound.flagged.note (.submitted job driver.context.accepts) rfl
  have closes := sound.closes.note (.submitted job driver.context.accepts) rfl
  cases answer : driver.context.accepts with
  | false =>
      rw [answer] at ordered booked flagged closes
      have refused : ¬IsOpen driver.history := fun is_open =>
        Bool.noConfusion (answer.symm.trans (open_iff.mpr is_open))
      exact ⟨⟨iff_of_false nofun refused, sound.grounded⟩, ordered, booked, { flagged with },
        closes⟩
  | true =>
      rw [answer] at ordered booked flagged closes
      have going := (accepts_iff.mp answer).2
      have queued := flagged.proceed going driver.work flagged.held
        (driver.context.jobs ++ [job]) driver.running
      exact ⟨⟨iff_of_true rfl (open_iff.mp answer), sound.grounded⟩, ordered, booked,
        { queued with }, closes⟩

theorem Sound.execute (sound : driver.Sound) : driver.execute.Sound := sound.submit rfl

theorem Sound.spawn (sound : driver.Sound) : driver.spawn.Sound := sound.submit rfl

theorem Booked.succ (booked : Booked next jobs running history) :
    Booked (next + 1) jobs running history :=
  { booked with identity_lt := fun job accepted submitted =>
      Nat.lt_succ_of_lt (booked.identity_lt job accepted submitted) }

theorem Sound.addHook (sound : driver.Sound) : driver.addHook.Sound := by
  obtain ⟨grounded, ordered, booked, flagged, closes⟩ :=
    sound.note (.registered driver.next) trivial rfl rfl rfl
  exact ⟨grounded, ordered, booked.succ, { flagged with }, closes⟩

theorem Sound.removeHook (sound : driver.Sound) (hook : Nat) : (driver.removeHook hook).Sound := by
  obtain ⟨grounded, ordered, booked, flagged, closes⟩ :=
    sound.note (.removed hook (driver.context.removeHook hook).2) trivial rfl rfl rfl
  exact ⟨grounded, ordered, booked, { flagged with }, closes⟩

/-! ## Closes -/

/-- The first close takes the hooks and is under way. -/
theorem close_eq (opened : driver.context.closed = false) (caller : Caller) :
    driver.close caller =
      { driver.note (.close true) with
        context := { driver.context with closed := true, hooks := [] }
        closing := some { caller, left := driver.context.hooks } } := by
  rw [Driver.close, Context.beginClose, if_neg (by simp [opened])]

theorem close_again (closed : driver.context.closed = true) (caller : Caller) :
    driver.close caller = driver.note (.close false) := by
  rw [Driver.close, Context.beginClose, if_pos closed]

theorem Sound.close (sound : driver.Sound) {caller : Caller}
    (calls : caller = .inside → driver.work.isBusy = true) : (driver.close caller).Sound := by
  have ⟨grounded, ordered, booked, flagged, closes⟩ := sound
  cases closed : driver.context.closed with
  | true =>
      rw [close_again closed]
      have before := flagged.closed_iff.mp closed
      exact sound.note (.close false) (iff_of_false nofun (absurd before)) rfl rfl
        rfl
  | false =>
      rw [close_eq closed]
      have first : .close true ∉ driver.history := fun before =>
        Bool.noConfusion (closed.symm.trans (flagged.closed_iff.mpr before))
      obtain ⟨not_told, calm⟩ := closes.before first
      have calm_still : Calm (.close true :: driver.history) := (calm_cons (by simp)).mpr calm
      exact
        { grounded := ⟨iff_of_true rfl first, grounded⟩
          ordered := ordered.note _ rfl
          booked := booked.note _ nofun
          flagged :=
            { flagged with
              closed_iff := iff_of_true rfl List.mem_cons_self
              stopping_iff := flagged.stopping_iff.trans (by simp [Driver.note])
              stopped_iff := flagged.stopped_iff.trans (by simp [Driver.note])
              held := fun held => calls (of_decide_eq_true held)
              found := fun handles closure => by
                simpa [Driver.note] using flagged.found handles closure }
          closes :=
            { under_way := fun _ =>
                ⟨List.mem_cons_self, by simpa [Driver.note] using not_told, calm_still⟩
              hook_ran := by simp
              at_rest := nofun
              before := fun open_still => absurd List.mem_cons_self open_still } }

/-- A close by somebody who can call it closes the context, unless it was closed before. -/
theorem Sound.closes_first (sound : driver.Sound) (some_handle : driver.handles ≠ 0)
    (still_open : .close true ∉ driver.history) {caller : Caller}
    (calls : caller = .inside → driver.work.isBusy = true) :
    driver.step (.close caller) =
      { driver.note (.close true) with
        context := { driver.context with closed := true, hooks := [] }
        closing := some { caller, left := driver.context.hooks } } := by
  have opened : driver.context.closed = false :=
    Bool.eq_false_iff.mpr fun closed => still_open (sound.flagged.closed_iff.mp closed)
  rw [← close_eq opened]
  cases caller with
  | outside => rw [Driver.step, Driver.closeBy, Driver.call, if_neg some_handle]
  | inside => rw [Driver.step, Driver.closeBy, if_pos (calls rfl), Driver.call, if_neg some_handle]

/-- A close goes on with the hooks that are left. -/
theorem Sound.runHooks (sound : driver.Sound) {now : Closing} (closing : driver.closing = some now)
    (hooks : List (CloseHook Unit)) : (driver.runHooks now.caller hooks).Sound := by
  have under_way := sound.closes.under_way (by simp [closing])
  cases hooks with
  | nil =>
      have ⟨grounded, ordered, booked, flagged, closes⟩ := sound
      exact
        { grounded := ⟨under_way, grounded⟩
          ordered := ordered.note _ rfl
          booked := booked.note _ nofun
          flagged :=
            { flagged with
              closed_iff := flagged.closed_iff.trans (by simp [Driver.runHooks, Driver.note])
              stopping_iff := iff_of_true rfl List.mem_cons_self
              stopped_iff := flagged.stopped_iff.trans (by simp [Driver.runHooks, Driver.note])
              held := nofun
              found := fun handles closure => by
                simpa [Driver.runHooks, Driver.note] using flagged.found handles closure }
          closes :=
            { under_way := fun again => absurd rfl again
              hook_ran := nofun
              at_rest := fun _ _ _ => List.mem_cons_self
              before := fun open_still =>
                absurd (List.mem_cons_of_mem _ under_way.1) open_still } }
  | cons hook left =>
      obtain ⟨grounded, ordered, booked, flagged, closes⟩ :=
        sound.note (.ranHook hook.id) under_way rfl rfl rfl
      have held : (driver.note (.ranHook hook.id)).isHeld = decide (now.caller = .inside) := by
        rw [Driver.note, isHeld, closing, Option.any_some]
      exact ⟨grounded, ordered, booked,
        { flagged with held := fun inside => flagged.held (held.trans inside) },
        { closes with
          under_way := fun _ => closes.under_way (by simp [Driver.note, closing])
          hook_ran := by simp [Driver.runHooks, Driver.note]
          at_rest := nofun }⟩

theorem Sound.advance (sound : driver.Sound) : driver.advance.Sound := by
  rw [Driver.advance]
  cases closing : driver.closing with
  | none => exact sound
  | some now => exact sound.runHooks closing now.left

theorem Sound.hookPanics (sound : driver.Sound) : driver.hookPanics.Sound := by
  have ⟨grounded, ordered, booked, flagged, closes⟩ := sound
  rw [Driver.hookPanics]
  split
  · rename_i caller hook left closing
    obtain ⟨closed, not_told, calm⟩ := closes.under_way (by simp [closing])
    have ran : .ranHook hook ∈ driver.history := closes.hook_ran _ closing hook rfl
    exact
      { grounded := ⟨⟨ran, not_told, calm⟩, grounded⟩
        ordered := ordered.note _ rfl
        booked := booked.note _ nofun
        flagged := { flagged.note (.hookPanicked hook) rfl with held := nofun }
        closes :=
          { under_way := fun again => absurd rfl again
            hook_ran := nofun
            at_rest := fun _ panicked_not => absurd List.mem_cons_self (panicked_not hook)
            before := fun open_still => absurd (List.mem_cons_of_mem _ closed) open_still } }
  · exact sound

theorem hooksLeft_runHooks (driver : Driver) (caller : Caller) (hooks : List (CloseHook Unit)) :
    (driver.runHooks caller hooks).hooksLeft = hooks.length := by
  cases hooks <;> rfl

theorem closing_of_hooksLeft (done : driver.hooksLeft = 0) : driver.closing = none := by
  cases closing : driver.closing with
  | none => rfl
  | some now => simp [hooksLeft, closing] at done

/-! ## Going on -/

theorem Sound.goOn (sound : driver.Sound) (completes : Bool) : (driver.goOn completes).Sound := by
  have ⟨grounded, ordered, booked, flagged, closes⟩ := sound
  have begun_eq := ordered.begun_eq
  rw [Driver.goOn]
  split
  · exact sound
  · rename_i free
    have never_held : ∀ now : Work, driver.isHeld = true → now.isBusy = true :=
      fun _ held => absurd held free
    cases work : driver.work with
    | idle => exact sound
    | taking => exact sound
    | closure id =>
        have going := flagged.going (by simp [work])
        have not_stopped : .stopped ∉ driver.history := fun stopped =>
          Bool.noConfusion (going.symm.trans (flagged.stopped_iff.mpr stopped))
        rw [work] at begun_eq
        have noted := flagged.note (.returned id) rfl
        exact ⟨⟨⟨not_stopped, begun_eq⟩, grounded⟩, ⟨begun_eq, ordered.accepted_eq, nofun, nofun⟩,
          booked.note _ nofun, noted.proceed going _ (never_held _) _ _, closes.note _ rfl⟩
    | futures polled =>
        cases polled with
        | none => exact sound
        | some future =>
            have going := flagged.going (by simp [work])
            rw [work] at begun_eq
            cases completes with
            | false =>
                exact ⟨grounded, ⟨begun_eq, ordered.accepted_eq, nofun, nofun⟩, booked,
                  flagged.proceed going _ (never_held _) _ _, closes⟩
            | true =>
                have ⟨grounded, ordered, booked, flagged, closes⟩ :=
                  sound.note (.completed future) (ordered.polled future work) rfl rfl rfl
                exact ⟨grounded, ⟨begun_eq, ordered.accepted_eq, nofun, nofun⟩,
                  { booked with running_accepted := fun other other_mem =>
                      booked.running_accepted other (List.mem_of_mem_erase other_mem) },
                  flagged.proceed going _ (never_held _) _ _, closes⟩

/-! ## Turns -/

theorem isFree_iff :
    driver.isFree = true ↔ driver.context.stopped = false ∧
      (driver.work = .idle ∨ driver.work = .futures none) := by
  simp [isFree]

theorem closures_of_free (free : driver.work.isBusy = false) : driver.work.closures = [] := by
  cases work : driver.work with
  | closure closure =>
      rw [work] at free
      cases free
  | _ => rfl

theorem Flagged.not_stopped (flagged : driver.Flagged) (going : driver.context.stopped = false) :
    .stopped ∉ driver.history := fun stopped =>
  Bool.noConfusion (going.symm.trans (flagged.stopped_iff.mpr stopped))

/-- Between two turns nothing runs that could have called a close. -/
theorem Flagged.not_held (flagged : driver.Flagged) (free : driver.work.isBusy = false) :
    driver.isHeld = false :=
  Bool.eq_false_iff.mpr fun held => Bool.noConfusion (free.symm.trans (flagged.held held))

theorem Sound.begun_of_free (sound : driver.Sound) (free : driver.work.closures = []) :
    begunClosures driver.history = endedClosures driver.history := by
  have begun_eq := sound.ordered.begun_eq
  rwa [free] at begun_eq

/-- The driver turns to other work, when nothing that runs waits for a close. -/
theorem Sound.turnTo (sound : driver.Sound) (going : driver.context.stopped = false)
    (free : driver.work.isBusy = false) {now : Work} (closures : now.closures = [])
    (polled : ∀ future, now = .futures (some future) → .polled future ∈ driver.history)
    (looked : now = .taking → HasLooked driver.history) :
    { driver with work := now }.Sound := by
  have ⟨grounded, ordered, booked, flagged, closes⟩ := sound
  have not_held : driver.isHeld = true → now.isBusy = true := fun held =>
    Bool.noConfusion ((flagged.not_held free).symm.trans held)
  refine ⟨grounded, ⟨?_, ordered.accepted_eq, polled, looked⟩, booked,
    flagged.proceed going now not_held _ _, closes⟩
  rw [closures]
  exact sound.begun_of_free (closures_of_free free)

theorem Sound.poll (sound : driver.Sound) (future : Nat) : (driver.poll future).Sound := by
  rw [Driver.poll]
  split
  · rename_i ready
    obtain ⟨work, future_mem⟩ := ready
    have going := sound.flagged.going (by simp [work])
    have free : driver.work.isBusy = false := by rw [work]; rfl
    have noted := sound.note (.polled future)
      ⟨sound.booked.running_accepted future future_mem, sound.flagged.not_stopped going,
        sound.begun_of_free (closures_of_free free)⟩ rfl rfl rfl
    refine noted.turnTo going free rfl ?_ nofun
    rintro other ⟨⟩
    exact List.mem_cons_self
  · exact sound

/-! ## Stopping -/

/-- A driver that stops has yet to drop some jobs. -/
structure Leaving (next : Nat) (jobs : List (Nat ⊕ Nat)) (history : List Event) : Prop where
  grounded : Grounded Event.Follows history
  ordered : Ordered jobs .idle history
  booked : Booked next jobs [] history
  going : .stopped ∉ history

theorem Leaving.drop (leaving : Leaving next (job :: jobs) history) :
    Leaving next jobs (.dropped job :: history) := by
  obtain ⟨grounded, ordered, booked, going⟩ := leaving
  have job_accepted := booked.jobs_accepted job List.mem_cons_self
  have noted := booked.note (.dropped job) nofun
  refine ⟨⟨⟨job_accepted, going, ordered.begun_eq⟩, grounded⟩,
    ⟨ordered.begun_eq, ?_, nofun, nofun⟩,
    { noted with jobs_accepted := fun other other_mem =>
        noted.jobs_accepted other (List.mem_cons_of_mem _ other_mem) }, by simpa using going⟩
  have accepted_eq := ordered.accepted_eq
  cases job with
  | inr future => exact accepted_eq
  | inl closure =>
      have first : waiting (.inl closure :: jobs) = closure :: waiting jobs := rfl
      rw [first, List.reverse_cons, List.append_assoc, List.append_assoc] at accepted_eq
      rw [List.append_assoc]
      exact accepted_eq

theorem Leaving.dropAll (leaving : Leaving next jobs history) :
    Leaving next [] ((jobs.map Event.dropped).reverse ++ history) := by
  induction jobs generalizing history with
  | nil => exact leaving
  | cons job jobs induction =>
      rw [List.map_cons, List.reverse_cons, List.append_assoc]
      exact induction leaving.drop

/-- Whether a driver notes an event when it stops. -/
def Event.isParting : Event → Bool
  | .dropped _ | .stopped => true
  | _ => false

theorem mem_halt (driver : Driver) (event : Event) (other : event.isParting = false) :
    event ∈ driver.halt.history ↔ event ∈ driver.history := by
  have drops_none : ∀ job, .dropped job ≠ event := by
    rintro job rfl
    cases other
  have stops_not : event ≠ .stopped := by
    rintro rfl
    cases other
  simp [Driver.halt, stops_not, drops_none]

theorem Flagged.halt (flagged : driver.Flagged) (not_held : driver.isHeld = false) :
    driver.halt.Flagged where
  closed_iff := flagged.closed_iff.trans (driver.mem_halt (.close true) rfl).symm
  stopping_iff := flagged.stopping_iff.trans (driver.mem_halt .told rfl).symm
  stopped_iff := iff_of_true rfl List.mem_cons_self
  dropped_eq := nofun
  cleared := fun _ => ⟨rfl, rfl, rfl⟩
  held := fun held => Bool.noConfusion (not_held.symm.trans held)
  found := fun handles closure began =>
    flagged.found handles closure ((driver.mem_halt (.began closure false) rfl).mp began)

theorem Closes.halt (closes : Closes driver.closing driver.history) :
    Closes driver.halt.closing driver.halt.history :=
  closes.of_same (driver.mem_halt (.close true) rfl) (driver.mem_halt .told rfl)
    (forall_congr' fun hook => not_congr (driver.mem_halt (.hookPanicked hook) rfl))
    fun hook => (driver.mem_halt (.ranHook hook) rfl).mpr

/-- A driver stops when no closure runs and nothing that runs waits for a close. -/
theorem sound_halt (grounded : Grounded Event.Follows driver.history)
    (ordered : Ordered driver.context.jobs .idle driver.history)
    (booked : Booked driver.next driver.context.jobs driver.running driver.history)
    (flagged : driver.Flagged) (closes : Closes driver.closing driver.history)
    (going : driver.context.stopped = false) (not_held : driver.isHeld = false) :
    driver.halt.Sound := by
  have waiting_eq : waiting (driver.running.map Sum.inr ++ driver.context.jobs) =
      waiting driver.context.jobs := by
    simp [waiting, List.filterMap_append, List.filterMap_map]
  have leaving : Leaving driver.next (driver.running.map Sum.inr ++ driver.context.jobs)
      driver.history :=
    { grounded
      ordered := ⟨ordered.begun_eq, waiting_eq ▸ ordered.accepted_eq, nofun, nofun⟩
      booked := { booked with
        jobs_accepted := by
          intro job job_mem
          rcases List.mem_append.mp job_mem with running | waits
          · obtain ⟨future, future_mem, rfl⟩ := List.mem_map.mp running
            exact booked.running_accepted future future_mem
          · exact booked.jobs_accepted job waits
        running_accepted := nofun }
      going := flagged.not_stopped going }
  obtain ⟨grounded, ordered, booked, going⟩ := leaving.dropAll
  exact ⟨⟨⟨going, ordered.begun_eq⟩, grounded⟩,
    ⟨ordered.begun_eq, ordered.accepted_eq, nofun, nofun⟩, booked.note .stopped nofun,
    flagged.halt not_held, closes.halt⟩

theorem Sound.halt (sound : driver.Sound) (going : driver.context.stopped = false)
    (free : driver.work.closures = []) (not_held : driver.isHeld = false) : driver.halt.Sound := by
  have ⟨grounded, ordered, booked, flagged, closes⟩ := sound
  exact sound_halt grounded ⟨sound.begun_of_free free, ordered.accepted_eq, nofun, nofun⟩ booked
    flagged closes going not_held

theorem Sound.shutDown (sound : driver.Sound) : driver.shutDown.Sound := by
  have ⟨grounded, ordered, booked, flagged, closes⟩ := sound
  rw [Driver.shutDown]
  split
  · exact sound
  · rename_i ready
    obtain ⟨not_held, going⟩ : driver.isHeld = false ∧ driver.context.stopped = false := by
      simpa using ready
    cases work : driver.work with
    | idle => exact sound.halt going (by rw [work]; rfl) not_held
    | taking => exact sound
    | futures polled => exact sound.halt going (by rw [work]; rfl) not_held
    | closure closure =>
        have begun_eq := ordered.begun_eq
        rw [work] at begun_eq
        have panics : Event.Follows driver.history (.panicked closure) :=
          ⟨flagged.not_stopped going, begun_eq⟩
        exact sound_halt ⟨panics, grounded⟩ ⟨begun_eq, ordered.accepted_eq, nofun, nofun⟩
          (booked.note _ nofun) (flagged.note _ rfl) (closes.note _ rfl) going not_held

/-! ## The next job -/

theorem free_of_isFree (free : driver.isFree = true) : driver.work.isBusy = false := by
  rcases (isFree_iff.mp free).2 with work | work
  · rw [work]
    rfl
  · rw [work]
    rfl

theorem Sound.look (sound : driver.Sound) : driver.look.Sound := by
  have flagged := sound.flagged
  rw [Driver.look]
  split
  · rename_i free
    have going := (isFree_iff.mp free).1
    have idle := free_of_isFree free
    split
    · exact sound.halt going (closures_of_free idle) (flagged.not_held idle)
    · rename_i stopping_not
      have not_told : .told ∉ driver.history := fun told =>
        stopping_not (flagged.stopping_iff.mpr told)
      have noted := sound.note .looked ⟨not_told, flagged.not_stopped going,
        sound.begun_of_free (closures_of_free idle)⟩ rfl rfl rfl
      exact noted.turnTo going idle rfl nofun fun _ => trivial
  · exact sound

/-- The jobs behind the first one wait on. -/
theorem Booked.rest {rest : List (Nat ⊕ Nat)} (booked : Booked next (job :: rest) running history) :
    Booked next rest running history :=
  { booked with jobs_accepted := fun other other_mem =>
      booked.jobs_accepted other (List.mem_cons_of_mem _ other_mem) }

/-- The driver takes the next closure and runs it. -/
theorem Sound.begin (sound : driver.Sound) (taking : driver.work = .taking) {closure : Nat}
    {rest : List (Nat ⊕ Nat)} (jobs_eq : driver.context.jobs = .inl closure :: rest) :
    { driver.note (.began closure (driver.handles != 0)) with
      context := { driver.context with jobs := rest }
      work := .closure closure }.Sound := by
  have ⟨grounded, ordered, booked, flagged, closes⟩ := sound
  have going := flagged.going (by simp [taking])
  have begun_eq := sound.begun_of_free (by rw [taking]; rfl)
  have accepted_eq : acceptedClosures driver.history =
      (waiting rest).reverse ++ closure :: begunClosures driver.history := by
    have accepted_eq := ordered.accepted_eq
    have first : waiting (.inl closure :: rest) = closure :: waiting rest := rfl
    rw [flagged.dropped_eq going, List.append_nil, jobs_eq, first, List.reverse_cons,
      List.append_assoc] at accepted_eq
    exact accepted_eq
  have begins : Event.Follows driver.history (.began closure (driver.handles != 0)) :=
    ⟨flagged.not_stopped going, begun_eq, ordered.looked taking, _, accepted_eq⟩
  rw [jobs_eq] at booked
  refine
    { grounded := ⟨begins, grounded⟩
      ordered := ⟨congrArg (closure :: ·) begun_eq, ?_, nofun, nofun⟩
      booked := booked.rest.note _ nofun
      flagged :=
        { closed_iff := flagged.closed_iff.trans (by simp [Driver.note])
          stopping_iff := flagged.stopping_iff.trans (by simp [Driver.note])
          stopped_iff := flagged.stopped_iff.trans (by simp [Driver.note])
          dropped_eq := flagged.dropped_eq
          cleared := fun stopped => Bool.noConfusion (going.symm.trans stopped)
          held := fun _ => rfl
          found := ?_ }
      closes := closes.note _ rfl }
  · have dropped_eq : droppedClosures
        (.began closure (driver.handles != 0) :: driver.history) = [] :=
      flagged.dropped_eq going
    rw [Driver.note, dropped_eq, List.append_nil]
    exact accepted_eq
  · intro handles other
    have found_context : (driver.handles != 0) = true := bne_iff_ne.mpr handles
    simpa [Driver.note, found_context] using flagged.found handles other

/-- The driver takes the next future over. -/
theorem Sound.adopt (sound : driver.Sound) (taking : driver.work = .taking) {future : Nat}
    {rest : List (Nat ⊕ Nat)} (jobs_eq : driver.context.jobs = .inr future :: rest) :
    { driver with
      context := { driver.context with jobs := rest }
      work := .idle
      running := driver.running ++ [future] }.Sound := by
  have ⟨grounded, ordered, booked, flagged, closes⟩ := sound
  have going := flagged.going (by simp [taking])
  have free : driver.work.isBusy = false := by rw [taking]; rfl
  have accepted_eq := ordered.accepted_eq
  rw [jobs_eq] at accepted_eq booked
  have not_held : driver.isHeld = true → Work.idle.isBusy = true := fun held =>
    Bool.noConfusion ((flagged.not_held free).symm.trans held)
  refine ⟨grounded, ⟨sound.begun_of_free (closures_of_free free), accepted_eq, nofun, nofun⟩,
    { booked.rest with running_accepted := ?_ }, flagged.proceed going _ not_held _ _, closes⟩
  intro other other_mem
  rcases List.mem_append.mp other_mem with before | last
  · exact booked.running_accepted other before
  · rw [List.mem_singleton.mp last]
    exact booked.jobs_accepted (.inr future) List.mem_cons_self

theorem Sound.take (sound : driver.Sound) : driver.take.Sound := by
  rw [Driver.take]
  split
  · rename_i taking
    have going := sound.flagged.going (by simp [taking])
    have free : driver.work.isBusy = false := by rw [taking]; rfl
    cases jobs_eq : driver.context.jobs with
    | nil =>
        rw [Context.take?, jobs_eq]
        dsimp only
        split
        · exact sound.halt going (closures_of_free free) (sound.flagged.not_held free)
        · exact sound.turnTo going free rfl nofun nofun
    | cons job rest =>
        rw [Context.take?, jobs_eq]
        cases job with
        | inl closure => exact sound.begin taking jobs_eq
        | inr future => exact sound.adopt taking jobs_eq
  · exact sound

/-! ## Runs -/

theorem Sound.call (sound : driver.Sound) (effect : Driver → Driver)
    (effect_sound : driver.handles ≠ 0 → (effect driver).Sound) : (driver.call effect).Sound := by
  rw [Driver.call]
  split
  · exact sound
  · exact effect_sound ‹_›

theorem Sound.closeBy (sound : driver.Sound) (caller : Caller) : (driver.closeBy caller).Sound := by
  cases caller with
  | outside => exact sound.call (·.close .outside) fun _ => sound.close nofun
  | inside =>
      rw [Driver.closeBy]
      split
      · rename_i busy
        exact sound.call (·.close .inside) fun _ => sound.close fun _ => busy
      · exact sound

/-- Once there is no handle there is never one again. -/
theorem Sound.setHandles (sound : driver.Sound) {handles : Nat}
    (some_before : handles ≠ 0 → driver.handles ≠ 0) : { driver with handles }.Sound := by
  have ⟨grounded, ordered, booked, flagged, closes⟩ := sound
  exact ⟨grounded, ordered, booked,
    { flagged with found := fun some_now => flagged.found (some_before some_now) }, closes⟩

theorem Sound.step (sound : driver.Sound) (action : Action) : (driver.step action).Sound := by
  cases action with
  | execute => exact sound.call _ fun _ => sound.execute
  | spawn => exact sound.call _ fun _ => sound.spawn
  | addHook => exact sound.call _ fun _ => sound.addHook
  | removeHook hook => exact sound.call (·.removeHook hook) fun _ => sound.removeHook hook
  | close caller => exact sound.closeBy caller
  | clone =>
      exact sound.call (fun driver => { driver with handles := driver.handles + 1 })
        fun some_before => sound.setHandles fun _ => some_before
  | dropHandle =>
      rw [Driver.step, Driver.dropHandle]
      split
      · exact sound
      · exact sound.setHandles fun some_now => by omega
  | advance => exact sound.advance
  | hookPanics => exact sound.hookPanics
  | goOn completes => exact sound.goOn completes
  | poll future => exact sound.poll future
  | look => exact sound.look
  | take => exact sound.take
  | shutDown => exact sound.shutDown

theorem Sound.run (sound : driver.Sound) (actions : List Action) : (driver.run actions).Sound := by
  induction actions generalizing driver with
  | nil => exact sound
  | cons action rest induction => exact induction (sound.step action)

end Courier.Driver
