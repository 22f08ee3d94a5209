import Metering.Observer
import Metering.Registry.Recording

/-!
# Metering — the site

What reporters work on: the host, the clock, the registry and a journal, in which observers and
scripted reporters put down what happens to them.

* `Call` — what one may ask of a reporter;
* `Note` — an entry of the journal;
* `Site` — the four together;
* `Site.adopt` — takes over a changed registry and puts its notices into the log.
-/

namespace Metering

/-- What one may ask of a reporter. -/
inductive Call where
  | start
  | stop
  | report
  deriving DecidableEq

/-- The call's name. -/
def Call.label : Call → String
  | start => "start"
  | stop => "stop"
  | report => "report"

/-- An entry of the journal. -/
inductive Note where
  /-- A scripted reporter was called, with success or without. -/
  | called (tag : String) (call : Call) (well : Bool)
  /-- An observer heard of a change. -/
  | heard (label : String) (change : Change)
  /-- An observer did something. -/
  | acted (label : String) (action : Action) (outcome : Except Failure Answer)

/-- The host, the clock, the registry and the journal. -/
structure Site where
  host : Host
  now : Instant
  registry : Registry
  journal : List Note

namespace Site

/-- The site with one more entry in the journal. -/
def note (s : Site) (n : Note) : Site := { s with journal := s.journal ++ [n] }

/-- The site with one more event in the log. -/
def say (s : Site) (severity : Severity) (message : String) : Site :=
  { s with host := s.host.say severity message }

/-- The site with a changed registry, whose notices go into the log. -/
def adopt (s : Site) (r : Registry) : Site :=
  { s with
    registry := { r with trail := [] }
    host := { s.host with log := s.host.log ++ r.trail.map Notice.entry } }

/-- The site some time later. -/
def later (s : Site) (d : Duration) : Site :=
  { s with now := s.now + d, host := { s.host with wall := s.host.wall + (d : Int) } }

/-- The site with the wall clock set to so many seconds from the start of 1970. -/
def setWall (s : Site) (seconds : Int) : Site :=
  { s with host := { s.host with wall := seconds * (nanosPerSecond : Int) } }

/-- The site with nothing written or put down since. -/
def cleared (s : Site) : Site := { s with host := s.host.cleared, journal := [] }

end Site

end Metering
