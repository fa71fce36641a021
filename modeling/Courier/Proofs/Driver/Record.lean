import Courier.Driver
import Courier.Proofs.History

/-!
# The record of a context

What may stand in the record of a context and its driver after what.
-/

namespace Courier.Driver

def Event.accepted? : Event → Option Nat
  | .submitted (.inl closure) true => some closure
  | _ => none

/-- The closures that were accepted. -/
def acceptedClosures (history : List Event) : List Nat := history.filterMap Event.accepted?

theorem mem_acceptedClosures {closure : Nat} {history : List Event} :
    closure ∈ acceptedClosures history ↔ .submitted (.inl closure) true ∈ history := by
  constructor
  · intro closure_mem
    obtain ⟨event, event_mem, accepted⟩ := List.mem_filterMap.mp closure_mem
    cases event with
    | submitted job answer =>
        rcases job with found | future
        · cases answer with
          | false => cases accepted
          | true =>
              cases accepted
              exact event_mem
        · cases accepted
    | _ => cases accepted
  · exact fun submitted => List.mem_filterMap.mpr ⟨_, submitted, rfl⟩

def Event.began? : Event → Option Nat
  | .began closure _ => some closure
  | _ => none

/-- The closures that have begun. -/
def begunClosures (history : List Event) : List Nat := history.filterMap Event.began?

def Event.returned? : Event → Option Nat
  | .returned closure => some closure
  | _ => none

/-- The closures that have returned. -/
def returnedClosures (history : List Event) : List Nat := history.filterMap Event.returned?

def Event.ended? : Event → Option Nat
  | .returned closure | .panicked closure => some closure
  | _ => none

/-- The closures that have returned or panicked. -/
def endedClosures (history : List Event) : List Nat := history.filterMap Event.ended?

def Event.dropped? : Event → Option Nat
  | .dropped (.inl closure) => some closure
  | _ => none

/-- The closures that were dropped. -/
def droppedClosures (history : List Event) : List Nat := history.filterMap Event.dropped?

/-- The context is open and its driver has not stopped. -/
def IsOpen (history : List Event) : Prop := .close true ∉ history ∧ .stopped ∉ history

/-- No hook has panicked. -/
def Calm (history : List Event) : Prop := ∀ hook, .hookPanicked hook ∉ history

theorem calm_cons {event : Event} {history : List Event}
    (panics_not : ∀ hook, event ≠ .hookPanicked hook) :
    Calm (event :: history) ↔ Calm history := by
  refine forall_congr' fun hook => ?_
  rw [List.mem_cons, or_iff_right (panics_not hook).symm]

/-- The driver has looked whether it was told to stop since the last closure began. -/
def HasLooked : List Event → Prop
  | .looked :: _ => True
  | .began _ _ :: _ | [] => False
  | _ :: earlier => HasLooked earlier

theorem HasLooked.cons {history : List Event} (looked : HasLooked history) {event : Event}
    (begins_not : event.began? = none) : HasLooked (event :: history) := by
  cases event with
  | looked => trivial
  | began closure found => cases begins_not
  | _ => exact looked

/-- What an event of a context follows.  Jobs are accepted as long as the context is open.  The
closures begin in the order in which they were accepted, each when the one before has ended and the
driver has looked once more whether it was told to stop; futures that were accepted go on between
them.  A close runs the hooks and tells the driver to stop, unless one of them panics. -/
def Event.Follows (earlier : List Event) : Event → Prop
  | .submitted _ accepted => accepted = true ↔ IsOpen earlier
  | .close first => first = true ↔ .close true ∉ earlier
  | .ranHook _ | .told => .close true ∈ earlier ∧ .told ∉ earlier ∧ Calm earlier
  | .hookPanicked hook => .ranHook hook ∈ earlier ∧ .told ∉ earlier ∧ Calm earlier
  | .looked => .told ∉ earlier ∧ .stopped ∉ earlier ∧ begunClosures earlier = endedClosures earlier
  | .began closure _ =>
    .stopped ∉ earlier ∧ begunClosures earlier = endedClosures earlier ∧ HasLooked earlier ∧
      ∃ waiting, acceptedClosures earlier = waiting ++ closure :: begunClosures earlier
  | .returned closure | .panicked closure =>
    .stopped ∉ earlier ∧ begunClosures earlier = closure :: endedClosures earlier
  | .polled future =>
    .submitted (.inr future) true ∈ earlier ∧ .stopped ∉ earlier ∧
      begunClosures earlier = endedClosures earlier
  | .completed future => .polled future ∈ earlier
  | .dropped job =>
    .submitted job true ∈ earlier ∧ .stopped ∉ earlier ∧
      begunClosures earlier = endedClosures earlier
  | .stopped => .stopped ∉ earlier ∧ begunClosures earlier = endedClosures earlier
  | _ => True

/-- The closure that runs, if one does. -/
def Work.closures : Work → List Nat
  | .closure id => [id]
  | _ => []

/-- How often something that runs on the driver has to return before the next turn, when no close
holds it up. -/
def depth (driver : Driver) : Nat := driver.work.isBusy.toNat

/-- How often the close under way has to go on until it has told the driver to stop. -/
def hooksLeft (driver : Driver) : Nat := driver.closing.elim 0 (·.left.length + 1)

/-- What runs returns, and the driver has some turns, of which each returns before the next. -/
def rounds (returns : List Bool) (turns : Nat) : List Action :=
  returns.map .goOn ++ (List.replicate turns [.look, .take, .goOn true]).flatten

end Courier.Driver
