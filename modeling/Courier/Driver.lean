import Courier.Context

/-!
# The driver of a context

A context is driven by a task of its own, which takes the turns of the context.  The closures,
futures and close hooks that run on the way call the context back, as others do from outside.

Other calls are whole, but a close is not: it closes the context, runs the hooks one after the other
and at last tells the driver to stop.  The driver goes on meanwhile, unless what runs on it has
called the close and waits for it.  Neither is a turn whole: between the look whether it was told to
stop and the next job, others may act.  A record is kept of all that happens.
-/

namespace Courier

namespace Driver

/-- What a driver is at. -/
inductive Work where
  | idle
  /-- It was not told to stop when it looked, and takes the next job. -/
  | taking
  | closure (id : Nat)
  /-- It looks for futures that can go on, and one may be at it. -/
  | futures (polled : Option Nat)
deriving DecidableEq, Repr

/-- Whether something runs that would have to return before the next turn. -/
def Work.isBusy : Work → Bool
  | .closure _ | .futures (some _) => true
  | _ => false

/-- Who calls: what runs on the driver, or somebody else. -/
inductive Caller where
  | inside
  | outside
deriving DecidableEq, Repr

/-- A close under way. -/
structure Closing where
  caller : Caller
  /-- The hook that runs, if one does. -/
  hook : Option Nat := none
  /-- Hooks that have yet to run. -/
  left : List (CloseHook Unit)

inductive Event where
  /-- A closure or a future was submitted, and accepted or not. -/
  | submitted (job : Nat ⊕ Nat) (accepted : Bool)
  | registered (hook : Nat)
  | removed (hook : Nat) (found : Bool)
  /-- The context was closed, for the first time or again. -/
  | close (first : Bool)
  | ranHook (hook : Nat)
  /-- A hook has panicked, and the close that ran it has ended with it. -/
  | hookPanicked (hook : Nat)
  /-- All hooks have returned, and the driver was told to stop. -/
  | told
  /-- The driver has looked, and was not told to stop. -/
  | looked
  /-- A closure has begun.  It finds its context if there is a handle to that. -/
  | began (closure : Nat) (found : Bool)
  | returned (closure : Nat)
  | panicked (closure : Nat)
  | polled (future : Nat)
  | completed (future : Nat)
  | dropped (job : Nat ⊕ Nat)
  | stopped

inductive Action where
  | execute
  | spawn
  | addHook
  | removeHook (hook : Nat)
  | close (caller : Caller)
  | clone
  | dropHandle
  /-- The close under way goes on, after the return of the hook that runs. -/
  | advance
  | hookPanics
  /-- What runs on the driver returns; a future is complete then, or goes on later. -/
  | goOn (completes : Bool)
  | poll (future : Nat)
  /-- The driver looks whether it was told to stop. -/
  | look
  /-- The driver takes the next job, or looks for futures if none waits. -/
  | take
  /-- The task of the driver ends: it is dropped, or what runs on it panics. -/
  | shutDown

end Driver

/-- A context, its driver and what runs on it. -/
structure Driver where
  context : Context Nat Nat Unit
  /-- How many handles to the context there are. -/
  handles : Nat := 1
  work : Driver.Work := .idle
  closing : Option Driver.Closing := none
  /-- Futures that the driver has taken over. -/
  running : List Nat := []
  /-- The next identity of a closure, a future or a hook. -/
  next : Nat := 0
  /-- What has happened, the latest first. -/
  history : List Driver.Event := []

namespace Driver

def start (kind : ContextKind) : Driver := { context := { kind } }

def note (driver : Driver) (event : Event) : Driver :=
  { driver with history := event :: driver.history }

/-! ## Calls -/

/-- A job was submitted; the context has answered. -/
def submit (driver : Driver) (job : Nat ⊕ Nat) (answer : Context Nat Nat Unit × Bool) : Driver :=
  { driver.note (.submitted job answer.2) with context := answer.1, next := driver.next + 1 }

def execute (driver : Driver) : Driver :=
  driver.submit (.inl driver.next) (driver.context.execute driver.next)

def spawn (driver : Driver) : Driver :=
  driver.submit (.inr driver.next) (driver.context.spawn driver.next)

def addHook (driver : Driver) : Driver :=
  { driver.note (.registered driver.next) with
    context := driver.context.addHook driver.next ()
    next := driver.next + 1 }

def removeHook (driver : Driver) (hook : Nat) : Driver :=
  let (context, found) := driver.context.removeHook hook
  { driver.note (.removed hook found) with context }

def close (driver : Driver) (caller : Caller) : Driver :=
  match driver.context.beginClose with
  | (_, none) => driver.note (.close false)
  | (context, some left) =>
    { driver.note (.close true) with context, closing := some { caller, left } }

/-- Only who has a handle can call. -/
def call (driver : Driver) (effect : Driver → Driver) : Driver :=
  if driver.handles = 0 then driver else effect driver

/-- Inside calls only what runs on the driver. -/
def closeBy (driver : Driver) : Caller → Driver
  | .outside => driver.call (·.close .outside)
  | .inside => if driver.work.isBusy then driver.call (·.close .inside) else driver

/-- A handle is dropped; a close under way keeps one. -/
def dropHandle (driver : Driver) : Driver :=
  if driver.handles = 1 ∧ driver.closing.isSome then driver
  else { driver with handles := driver.handles - 1 }

/-! ## Closes -/

/-- A close runs its next hook; after the last one it tells the driver to stop. -/
def runHooks (driver : Driver) (caller : Caller) : List (CloseHook Unit) → Driver
  | hook :: left =>
    { driver.note (.ranHook hook.id) with closing := some { caller, hook := some hook.id, left } }
  | [] => { driver.note .told with context := driver.context.endClose, closing := none }

def advance (driver : Driver) : Driver :=
  match driver.closing with
  | some closing => driver.runHooks closing.caller closing.left
  | none => driver

/-- A close whose hook panics runs no other and tells the driver nothing. -/
def hookPanics (driver : Driver) : Driver :=
  match driver.closing with
  | some ⟨_, some hook, _⟩ => { driver.note (.hookPanicked hook) with closing := none }
  | _ => driver

/-- Whether what runs on the driver waits for a close that it has called. -/
def isHeld (driver : Driver) : Bool := driver.closing.any (·.caller = .inside)

/-! ## Turns -/

/-- The driver stops and drops what is left. -/
def halt (driver : Driver) : Driver :=
  let (context, jobs) := driver.context.halt
  let dropped := (driver.running.map Sum.inr ++ jobs).map Event.dropped
  { driver with
    context
    work := .idle
    running := []
    history := .stopped :: dropped.reverse ++ driver.history }

/-- Whether the driver is between two turns. -/
def isFree (driver : Driver) : Bool :=
  !driver.context.stopped && (driver.work = .idle || driver.work = .futures none)

def look (driver : Driver) : Driver :=
  if driver.isFree then
    if driver.context.stopping then driver.halt
    else { driver.note .looked with work := .taking }
  else driver

def take (driver : Driver) : Driver :=
  if driver.work = .taking then
    match driver.context.take? with
    | some (.inl closure, context) =>
      { driver.note (.began closure (driver.handles != 0)) with
        context
        work := .closure closure }
    | some (.inr future, context) =>
      { driver with context, work := .idle, running := driver.running ++ [future] }
    | none =>
      if driver.handles = 0 ∧ driver.running = [] then driver.halt
      else { driver with work := .futures none }
  else driver

/-- A future goes on, after the driver has looked for futures. -/
def poll (driver : Driver) (future : Nat) : Driver :=
  if driver.work = .futures none ∧ future ∈ driver.running then
    { driver.note (.polled future) with work := .futures (some future) }
  else driver

def goOn (driver : Driver) (completes : Bool) : Driver :=
  if driver.isHeld then driver
  else
    match driver.work with
    | .closure closure => { driver.note (.returned closure) with work := .idle }
    | .futures (some future) =>
      if completes then
        { driver.note (.completed future) with
          work := .idle
          running := driver.running.erase future }
      else { driver with work := .futures none }
    | _ => driver

def shutDown (driver : Driver) : Driver :=
  if driver.isHeld || driver.context.stopped then driver
  else
    match driver.work with
    | .taking => driver
    | .closure closure => (driver.note (.panicked closure)).halt
    | _ => driver.halt

def step (driver : Driver) : Action → Driver
  | .execute => driver.call execute
  | .spawn => driver.call spawn
  | .addHook => driver.call addHook
  | .removeHook hook => driver.call (·.removeHook hook)
  | .close caller => driver.closeBy caller
  | .clone => driver.call fun driver => { driver with handles := driver.handles + 1 }
  | .dropHandle => driver.dropHandle
  | .advance => driver.advance
  | .hookPanics => driver.hookPanics
  | .goOn completes => driver.goOn completes
  | .poll future => driver.poll future
  | .look => driver.look
  | .take => driver.take
  | .shutDown => driver.shutDown

/-- What actions make of a context and its driver, one after the other. -/
def run (driver : Driver) (actions : List Action) : Driver := actions.foldl step driver

end Driver

end Courier
