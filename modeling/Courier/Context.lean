import Courier.Client

/-!
# Contexts

A context runs what is submitted to it, one piece at a time: first it looks whether it was closed,
then for the next job, then for a future that can go on.  Closing it runs the close hooks and stops
it; without a close it stops once nobody can submit to it any more and its work is done.
-/

namespace Courier

/-- A close hook and its identity. -/
structure CloseHook (η : Type) where
  id : Nat
  /-- What runs. -/
  action : η

/-- A context with jobs, futures and close hooks. -/
structure Context (φ ψ η : Type) where
  /-- How it schedules its work. -/
  kind : ContextKind
  closed : Bool := false
  /-- Whether its driver was told to stop. -/
  stopping : Bool := false
  /-- Whether its driver has stopped. -/
  stopped : Bool := false
  /-- Jobs that wait, in order of submission. -/
  jobs : List (Sum φ ψ) := []
  /-- Close hooks, in order of registration. -/
  hooks : List (CloseHook η) := []

namespace Context

variable {φ ψ η : Type}

/-- Whether a submission is accepted. -/
def accepts (context : Context φ ψ η) : Bool := !context.closed && !context.stopped

/-- Submits a closure; tells whether it was accepted. -/
def execute (context : Context φ ψ η) (closure : φ) : Context φ ψ η × Bool :=
  if context.accepts then ({ context with jobs := context.jobs ++ [.inl closure] }, true)
  else (context, false)

/-- Submits a future; tells whether it was accepted. -/
def spawn (context : Context φ ψ η) (future : ψ) : Context φ ψ η × Bool :=
  if context.accepts then ({ context with jobs := context.jobs ++ [.inr future] }, true)
  else (context, false)

/-- Registers a close hook. -/
def addHook (context : Context φ ψ η) (id : Nat) (action : η) : Context φ ψ η :=
  { context with hooks := context.hooks ++ [⟨id, action⟩] }

/-- Removes a close hook; tells whether it was there. -/
def removeHook (context : Context φ ψ η) (id : Nat) : Context φ ψ η × Bool :=
  ({ context with hooks := context.hooks.filter (·.id != id) }, context.hooks.any (·.id == id))

/-- Begins a close: the first one takes all hooks, which are then to be run in order, and a later
one takes none. -/
def beginClose (context : Context φ ψ η) : Context φ ψ η × Option (List (CloseHook η)) :=
  if context.closed then (context, none)
  else ({ context with closed := true, hooks := [] }, some context.hooks)

/-- Ends a close: the driver is told to stop. -/
def endClose (context : Context φ ψ η) : Context φ ψ η := { context with stopping := true }

/-- Takes the next job, if one waits. -/
def take? (context : Context φ ψ η) : Option (Sum φ ψ × Context φ ψ η) :=
  match context.jobs with
  | job :: jobs => some (job, { context with jobs })
  | [] => none

/-- What a driver does next. -/
inductive Turn (φ ψ : Type) where
  /-- It stops. -/
  | stop
  /-- It runs a closure. -/
  | run (closure : φ)
  /-- It takes over a future. -/
  | adopt (future : ψ)
  /-- It lets its futures go on. -/
  | futures

/-- The next turn of a driver. -/
def turn (context : Context φ ψ η) : Context φ ψ η × Turn φ ψ :=
  if context.stopping then (context, .stop)
  else
    match context.take? with
    | some (.inl closure, context) => (context, .run closure)
    | some (.inr future, context) => (context, .adopt future)
    | none => (context, .futures)

/-- The driver stops; gives the jobs that are dropped with it. -/
def halt (context : Context φ ψ η) : Context φ ψ η × List (Sum φ ψ) :=
  ({ context with stopped := true, jobs := [] }, context.jobs)

end Context

end Courier
