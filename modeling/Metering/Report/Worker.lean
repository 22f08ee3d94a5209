/-!
# Metering — workers

A reporter that polls does so on a thread of its own, its worker, which waits for the period to
be over or for the message to stop. The owner of the reporter starts a worker, and to stop it
sends the message and waits for its end. The two go on independently of each other.

* `Phase`, `Worker` — where a worker is, and what it may find in the channel from its owner;
* `Shift` — all workers that a reporter has had, and which of them the owner knows to be at work;
* `Move` and `Shift.move?` — the moves of the owner and of the workers, and when they can be made;
* `Shift.running`, `Shift.bereft` — what the owner is told about a worker being there, and about
  its end.
-/

namespace Metering.Report

/-- Whether a thread can be named after a reporter. -/
def canWork (reporter : String) : Bool := !reporter.toList.contains (Char.ofNat 0)

/-- Where a worker is. -/
inductive Phase where
  /-- It waits for the period to be over or for the message. -/
  | waiting
  /-- It is in a cycle. -/
  | writing
  /-- It has ended because of the message. -/
  | left
  /-- It has ended because a cycle broke off. -/
  | crashed
  deriving DecidableEq

/-- A worker, whether the message to stop was sent to it, and whether the owner still holds the
other end of the channel. -/
structure Worker where
  phase : Phase
  told : Bool
  connected : Bool
  deriving DecidableEq

/-- A worker that was just started. -/
def Worker.fresh : Worker := ⟨.waiting, false, true⟩

/-- Whether a worker has ended. -/
def Worker.ended (w : Worker) : Bool := w.phase = .left || w.phase = .crashed

/-- All workers that a reporter has had, by their places; the one that the owner has started, the
one for whose end the owner waits, and whether the owner has given up the reporter. -/
structure Shift where
  workers : List Worker
  current : Option Nat
  awaited : Option Nat
  dropped : Bool
  deriving DecidableEq

/-- What the owner and the workers do. -/
inductive Move where
  /-- The owner starts a worker, unless one is at work. -/
  | start
  /-- The owner tries to start a worker where none is at work, and no thread can be had. -/
  | balk
  /-- The owner runs a cycle on its own account, however that ends. -/
  | report
  /-- The owner sends the message to the worker that is at work, if any, and waits for its end. -/
  | stop
  /-- The owner does the same and gives up the reporter. -/
  | drop
  /-- The owner goes on after the end of the worker, and lets go of the channel. -/
  | join
  /-- For a worker the period is over, and it has found no message. -/
  | tick (worker : Nat)
  /-- A cycle of a worker comes to its end. -/
  | finish (worker : Nat)
  /-- A cycle of a worker breaks off, and the worker with it. -/
  | crash (worker : Nat)
  /-- A worker gets the message. -/
  | hear (worker : Nat)
  /-- A worker that was sent no message finds that nobody holds the other end of the channel. -/
  | lose (worker : Nat)
  deriving DecidableEq

namespace Shift

/-- No worker yet. -/
def idle : Shift := ⟨[], none, none, false⟩

/-- Whether the owner has a worker at work, as far as it knows. -/
def running (s : Shift) : Bool := s.current.isSome

/-- Whether the owner can make a move: it is not waiting and has not given up the reporter. -/
def ownerFree (s : Shift) : Bool := s.awaited.isNone && !s.dropped

/-- The worker at a place, if its phase is the given one. -/
def workerIn? (s : Shift) (id : Nat) (phase : Phase) : Option Worker :=
  s.workers[id]?.filter fun w => w.phase = phase

/-- Whether the worker for whose end the owner waits has crashed. The owner's call fails then. -/
def bereft (s : Shift) : Bool := s.awaited.any fun id => (s.workerIn? id .crashed).isSome

/-- With a worker in another phase. -/
def setPhase (s : Shift) (id : Nat) (phase : Phase) : Shift :=
  { s with workers := s.workers.modify id fun w => { w with phase := phase } }

/-- With a new worker, which the owner knows to be at work. -/
def hired (s : Shift) : Shift :=
  { s with workers := s.workers ++ [.fresh], current := some s.workers.length }

/-- With the message sent to the worker at work, for whose end the owner waits now. -/
def dismissed (s : Shift) : Shift :=
  match s.current with
  | none => s
  | some id =>
    { s with
      workers := s.workers.modify id fun w => { w with told := true }
      current := none
      awaited := some id }

/-- With nobody waited for, and no hold on the channel of the worker that was waited for. -/
def released (s : Shift) (id : Nat) : Shift :=
  { s with
    workers := s.workers.modify id fun w => { w with connected := false }
    awaited := none }

/-- A move, if it can be made. -/
def move? (s : Shift) : Move → Option Shift
  | .start => if s.ownerFree then some (if s.running then s else s.hired) else none
  | .balk => if s.ownerFree && !s.running then some s else none
  | .report => if s.ownerFree then some s else none
  | .stop => if s.ownerFree then some s.dismissed else none
  | .drop => if s.ownerFree then some { s.dismissed with dropped := true } else none
  | .join =>
    match s.awaited with
    | some id =>
      if s.workers[id]?.any Worker.ended then some (s.released id) else none
    | none => none
  | .tick id =>
    ((s.workerIn? id .waiting).filter fun w => !w.told).map fun _ => s.setPhase id .writing
  | .finish id => (s.workerIn? id .writing).map fun _ => s.setPhase id .waiting
  | .crash id => (s.workerIn? id .writing).map fun _ => s.setPhase id .crashed
  | .hear id => ((s.workerIn? id .waiting).filter Worker.told).map fun _ => s.setPhase id .left
  | .lose id =>
    ((s.workerIn? id .waiting).filter fun w => !w.told && !w.connected).map fun _ =>
      s.setPhase id .left

/-- Several moves, if they can be made one after another. -/
def moves? (s : Shift) : List Move → Option Shift
  | [] => some s
  | m :: ms => (s.move? m).bind fun s => s.moves? ms

end Shift

end Metering.Report
