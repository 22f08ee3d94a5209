import Metering.Report.Reporter
import Metering.Subscriptions

/-!
# Metering — the supervisor

A supervisor keeps reporters by their names. It starts and stops them with the metrics, and
starts those anew that follow the metrics when levels change. What one reporter fails in is put
into the log and does not keep the others from being called.

* `Supervisor` — the reporters, and the numbers under which the supervisor hears of changes;
* `Reporters` — the reporters at their site;
* `startAll`, `stopAll`, `reportAll`, `restartListening` — calls of many, in the order of names;
* `callOne`, `register`, `discharge`, `close` — one reporter, and the end of all.
-/

namespace Metering

open Report

/-- Reporters by their names, and the numbers of the supervisor's three subscriptions. -/
structure Supervisor where
  reporters : NameMap Reporter
  switchTicket : Nat
  rootTicket : Nat
  metricTicket : Nat

/-- The reporters at their site. -/
structure Reporters where
  site : Site
  byName : NameMap Reporter

namespace Reporters

/-! ## Calls of many -/

/-- Calls the reporter of a name. A failure goes into the log; one that breaks off ends the
calls. -/
def attend (visit : Reporter → Site → Site × Reporter × Outcome)
    (wording : String → ReportFault → String) (name : String) (rs : Reporters) :
    Reporters × Bool :=
  match rs.byName.get? name with
  | none => (rs, true)
  | some r =>
    let (site, r, outcome) := visit r rs.site
    let kept := rs.byName.insert name r
    match outcome with
    | .done => (⟨site, kept⟩, true)
    | .failed fault => (⟨site.say .error (wording name fault), kept⟩, true)
    | .brokenOff => (⟨site, kept⟩, false)

/-- Calls all reporters in the order of their names. -/
def attendAll (rs : Reporters) (visit : Reporter → Site → Site × Reporter × Outcome)
    (wording : String → ReportFault → String) : Reporters × Bool :=
  inTurn (attend visit wording) rs.byName.names rs

/-- Starts all reporters. -/
def startAll (rs : Reporters) : Reporters × Bool :=
  rs.attendAll Reporter.start fun name fault =>
    s!"Failed to start reporter '{name}': {fault.message}"

/-- Stops all reporters. -/
def stopAll (rs : Reporters) : Reporters × Bool :=
  rs.attendAll Reporter.stop fun name fault =>
    s!"Failed to stop reporter '{name}': {fault.message}"

/-- Lets a reporter report if it polls. -/
def reportIfScheduled (r : Reporter) (site : Site) : Site × Reporter × Outcome :=
  if r.mode = .scheduled then r.report site else (site, r, .done)

/-- Lets all reporters report that poll. -/
def reportAll (rs : Reporters) : Reporters × Bool :=
  rs.attendAll reportIfScheduled fun name fault =>
    s!"Reporter '{name}' failed to report: {fault.message}"

/-- Starts a reporter anew if it follows the metrics and runs. -/
def restartIfListening (r : Reporter) (site : Site) : Site × Reporter × Outcome :=
  if r.mode = .listening ∧ r.running then
    r.restart (site.say .debug s!"Restarting listening reporter '{r.name}'.")
  else (site, r, .done)

/-- Starts all running reporters anew that follow the metrics. -/
def restartListening (rs : Reporters) : Reporters × Bool :=
  rs.attendAll restartIfListening fun name fault =>
    s!"Failed to restart reporter '{name}': {fault.message}"

/-- What the supervisor does on a change: reporters run while metrics are switched on, and those
that follow the metrics start anew when levels change. -/
def heed (rs : Reporters) : Change → Reporters × Bool
  | .switch true => rs.startAll
  | .switch false => rs.stopAll
  | .root .. | .metric .. => rs.restartListening

/-! ## One reporter -/

/-- Calls the reporter of a name, if there is one. -/
def callOne (rs : Reporters) (visit : Reporter → Site → Site × Reporter × Outcome)
    (name : String) : Reporters × Except Failure Unit :=
  match rs.byName.get? name with
  | none => (rs, .error (.unreported (.notFound name)))
  | some r =>
    let (site, r, outcome) := visit r rs.site
    let rs : Reporters := ⟨site, rs.byName.insert name r⟩
    match outcome with
    | .done => (rs, .ok ())
    | .failed fault => (rs, .error (.unreported fault))
    | .brokenOff => (rs, .error .brokenOff)

/-- Whether the reporter of a name runs, if there is one. -/
def running? (rs : Reporters) (name : String) : Except ReportFault Bool :=
  match rs.byName.get? name with
  | some r => .ok r.running
  | none => .error (.notFound name)

/-- Stops a reporter that has left the supervisor, and gives it up. -/
def dismiss (rs : Reporters) (r : Reporter) (wording : ReportFault → String) :
    Reporters × Reporter × Bool :=
  match r.stop rs.site with
  | (site, r, .done) => ({ rs with site := r.giveUp site }, r, true)
  | (site, r, .failed fault) =>
    ({ rs with site := r.giveUp (site.say .error (wording fault)) }, r, true)
  | (site, r, .brokenOff) => ({ rs with site := r.giveUp site }, r, false)

/-- Stops the reporter whose place another has taken. -/
def dismissReplaced (rs : Reporters) : Option Reporter → Reporters × Bool
  | none => (rs, true)
  | some old =>
    let rs : Reporters :=
      { rs with site := rs.site.say .debug s!"Replacing reporter '{old.name}'." }
    let (rs, _, whole) := rs.dismiss old fun fault =>
      s!"Failed to stop replaced reporter '{old.name}': {fault.message}"
    (rs, whole)

/-- Registers a reporter under its name, in place of the one that was there, which is stopped.
The reporter is started if metrics are switched on. -/
def register (rs : Reporters) (r : Reporter) : Reporters × Bool :=
  let old := rs.byName.get? r.name
  let rs : Reporters := { rs with byName := rs.byName.insert r.name r }
  match rs.dismissReplaced old with
  | (rs, false) => (rs, false)
  | (rs, true) =>
    if rs.site.registry.enabled then
      attend Reporter.start (fun name fault =>
        s!"Failed to start reporter '{name}': {fault.message}") r.name rs
    else (rs, true)

/-- Removes the reporter of a name and stops it. Also says whether there was one. -/
def discharge (rs : Reporters) (name : String) : Reporters × Except Failure Bool :=
  match rs.byName.get? name with
  | none => (rs, .ok false)
  | some r =>
    let rs : Reporters := { rs with byName := rs.byName.erase name }
    match rs.dismiss r fun fault => s!"Failed to stop reporter '{name}': {fault.message}" with
    | (rs, _, true) => (rs, .ok true)
    | (rs, _, false) => (rs, .error .brokenOff)

/-- Stops all reporters and gives them up. -/
def close (rs : Reporters) : Site × Bool :=
  let (rs, whole) := rs.stopAll
  (rs.byName.values.foldl (fun site r => r.giveUp site) rs.site, whole)

end Reporters

end Metering
