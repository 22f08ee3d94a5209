import Metering.Clock
import Metering.Host.Files

/-!
# Metering — the host

What surrounds the metrics: the wall clock, the files, the standard output and the log.

* `LogEntry` — what is said of the metrics' own doings, and lines that a reporter writes;
* `Host` — the surroundings;
* `Host.say`, `Host.line`, `Host.print` — writing to them.
-/

namespace Metering

/-- How important an entry of the log is. -/
inductive Severity where
  | error
  | warn
  | info
  | debug
  | trace
  deriving DecidableEq

/-- The written form of a severity. -/
def Severity.label : Severity → String
  | error => "ERROR"
  | warn => "WARN"
  | info => "INFO"
  | debug => "DEBUG"
  | trace => "TRACE"

/-- An entry of the log: an event in the life of the metrics, or a line that a reporter writes
under a target of its own. -/
inductive LogEntry where
  | event (severity : Severity) (message : String)
  | line (target text : String)
  deriving DecidableEq

/-- The surroundings. The wall clock counts nanoseconds from the start of 1970 and may be set to
any time. -/
structure Host where
  wall : Int
  files : Files
  output : String
  log : List LogEntry

namespace Host

/-- The seconds on the wall clock; zero before 1970. -/
def timestamp (h : Host) : Nat := (h.wall / (nanosPerSecond : Int)).toNat

/-- Puts an event into the log. -/
def say (h : Host) (severity : Severity) (message : String) : Host :=
  { h with log := h.log ++ [.event severity message] }

/-- Puts a line into the log. -/
def line (h : Host) (target text : String) : Host :=
  { h with log := h.log ++ [.line target text] }

/-- Writes to the standard output. -/
def print (h : Host) (text : String) : Host := { h with output := h.output ++ text }

/-- The host with nothing written since. -/
def cleared (h : Host) : Host := { h with output := "", log := [] }

end Host

end Metering
