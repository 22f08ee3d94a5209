import Metering.Report.Fault
import Metering.Report.Worker
import Metering.Sample

/-!
# Metering — cycles

A reporter whose sink numbers its cycles and publishes what they report. Its worker's cycles
happen when somebody waits for them.

* `CycleSink` — the sink, and which cycles fail or break off;
* `Pace` — the reporter with its worker;
* `Pace.start`, `Pace.stop`, `Pace.report` — what the owner does;
* `Pace.take` — waits for cycles.
-/

namespace Metering.Report

/-- A published cycle: its number and what it reported. -/
abbrev Cycle := Nat × List Sample

/-- How a cycle ends. -/
inductive CycleEnd where
  | well
  | failed (number : Nat)
  | brokenOff

/-- A sink with the number of the next cycle, the cycles that fail, the one that breaks off, and
the cycles that were published and not yet taken. -/
structure CycleSink where
  next : Nat
  failing : List Nat
  breaking : Option Nat
  published : List Cycle

/-- Publishes a cycle; it fails or breaks off only then. -/
def CycleSink.write (s : CycleSink) (samples : List Sample) : CycleSink × CycleEnd :=
  let k := s.next
  ({ s with next := k + 1, published := s.published ++ [(k, samples)] },
    if s.breaking = some k then .brokenOff
    else if s.failing.contains k then .failed k
    else .well)

/-- A reporter with its worker. What it reports stays the same. -/
structure Pace where
  name : String
  samples : List Sample
  sink : CycleSink
  shift : Shift

namespace Pace

/-- The reporter after a move, if the move can be made. -/
def moved (p : Pace) (m : Move) : Pace := { p with shift := (p.shift.move? m).getD p.shift }

/-- Starts the worker, unless it is at work. Also says whether it is at work then: it is not if
no thread can be named after the reporter. -/
def start (p : Pace) : Pace × Bool :=
  if p.shift.running then (p, true)
  else if canWork p.name then (p.moved .start, true)
  else (p.moved .balk, false)

/-- One cycle of the worker at work, if it is waiting for the period to be over. -/
def cycle? (p : Pace) : Option Pace := do
  let id ← p.shift.current
  let ticked ← p.shift.move? (.tick id)
  let (sink, ending) := p.sink.write p.samples
  let p : Pace := { p with sink := sink, shift := ticked }
  match ending with
  | .well | .failed _ => some (p.moved (.finish id))
  | .brokenOff => some (p.moved (.crash id))

/-- Stops the worker and waits for its end. It is an error if the worker had crashed. -/
def stop (p : Pace) : Pace × Except ReportFault Unit :=
  match p.shift.current with
  | none => (p, .ok ())
  | some id =>
    let p := (p.moved .stop).moved (.hear id)
    (p.moved .join,
      if p.shift.bereft then .error (.failed p.name "reporter thread panicked") else .ok ())

/-- One cycle on the owner's own account; nothing comes back if it broke off. -/
def report (p : Pace) : Pace × Option (Except ReportFault Unit) :=
  let (sink, ending) := p.sink.write p.samples
  ({ p with sink := sink },
    match ending with
    | .well => some (.ok ())
    | .failed k => some (.error (.failed p.name s!"cycle {k}"))
    | .brokenOff => none)

/-- Takes the next published cycles, so many as are asked for, and waits for those of the worker
if they are not enough. -/
def take (p : Pace) : Nat → Pace × List Cycle
  | 0 => (p, [])
  | n + 1 =>
    let p := if p.sink.published.isEmpty then p.cycle?.getD p else p
    match p.sink.published with
    | [] => (p, [])
    | c :: rest =>
      let (p, cs) := ({ p with sink := { p.sink with published := rest } } : Pace).take n
      (p, c :: cs)

/-- Drops the cycles that nobody took. -/
def drain (p : Pace) : Pace := { p with sink := { p.sink with published := [] } }

end Pace

end Metering.Report
