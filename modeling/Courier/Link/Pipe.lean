import Courier.Bytes

/-!
# Pipes

A pipe carries octets one way and holds at most a fixed number of them.  What was written before
a pipe was closed can still be read.
-/

namespace Courier

/-- One direction of a connection. -/
structure Pipe where
  /-- Greatest number of octets held. -/
  capacity : Nat
  /-- Octets held. -/
  held : Bytes := []
  /-- Whether one end is closed. -/
  closed : Bool := false
deriving DecidableEq, Repr

namespace Pipe

/-- What an attempt to write came to. -/
inductive Written where
  /-- The pipe is full. -/
  | full
  /-- The pipe is closed. -/
  | broken
  /-- A number of octets was taken. -/
  | taken (count : Nat)
deriving DecidableEq, Repr

/-- What an attempt to read came to. -/
inductive Received where
  /-- The pipe is empty. -/
  | empty
  /-- The pipe is empty and closed. -/
  | ended
  /-- Octets arrived. -/
  | octets (bytes : Bytes)
deriving DecidableEq, Repr

/-- One attempt to write. -/
def write (pipe : Pipe) (bytes : Bytes) : Pipe × Written :=
  if pipe.closed then (pipe, .broken)
  else
    let room := pipe.capacity - pipe.held.length
    if room == 0 then (pipe, .full)
    else
      let taken := bytes.take room
      ({ pipe with held := pipe.held ++ taken }, .taken taken.length)

/-- One attempt to read at most a number of octets. -/
def read (pipe : Pipe) (limit : Nat) : Pipe × Received :=
  if pipe.held.isEmpty then (pipe, if pipe.closed then .ended else .empty)
  else ({ pipe with held := pipe.held.drop limit }, .octets (pipe.held.take limit))

def close (pipe : Pipe) : Pipe := { pipe with closed := true }

/-- Whether an attempt to read would find something. -/
def isReadable (pipe : Pipe) : Bool := !pipe.held.isEmpty || pipe.closed

/-- Whether an attempt to write would come to something. -/
def isWritable (pipe : Pipe) : Bool := pipe.closed || pipe.held.length < pipe.capacity

end Pipe

/-- One end of a connection: the pipe it reads and the pipe it writes. -/
structure Link where
  /-- What the other end writes. -/
  incoming : Pipe
  /-- What the other end reads. -/
  outgoing : Pipe
deriving DecidableEq, Repr

namespace Link

/-- Two pipes of one capacity. -/
def create (capacity : Nat) : Link := ⟨{ capacity }, { capacity }⟩

/-- The other end. -/
def flip (link : Link) : Link := ⟨link.outgoing, link.incoming⟩

/-- Closes both directions. -/
def close (link : Link) : Link := ⟨link.incoming.close, link.outgoing.close⟩

/-- What became of octets that were to be written. -/
inductive Flushed where
  /-- All of them were taken. -/
  | all
  | blocked (left : Bytes)
  /-- The other end is gone. -/
  | broken
deriving DecidableEq, Repr

/-- Writes as much as the outgoing pipe takes. -/
def flush (link : Link) (bytes : Bytes) : Link × Flushed :=
  if bytes.isEmpty then (link, .all)
  else
    match link.outgoing.write bytes with
    | (_, .broken) => (link, .broken)
    | (_, .full) => (link, .blocked bytes)
    | (outgoing, .taken count) =>
      let left := bytes.drop count
      ({ link with outgoing }, if left.isEmpty then .all else .blocked left)

/-- Reads at most a number of octets. -/
def receive (link : Link) (limit : Nat) : Link × Pipe.Received :=
  let (incoming, received) := link.incoming.read limit
  ({ link with incoming }, received)

end Link

end Courier
