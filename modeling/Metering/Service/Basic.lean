import Metering.Registry.Creation
import Metering.Registry.Enablement
import Metering.Registry.Removal
import Metering.Settings
import Metering.Supervisor

/-!
# Metering — the service

A service is a registry at its site, with those who hear of its changes and the supervisor of its
reporters.

* `Listener` — who hears of changes: an observer or the supervisor;
* `Service` — the whole;
* `Service.subscribe`, `Service.leave` — hearing of changes, and leaving;
* `Service.supervised` — what the supervisor does with its reporters.
-/

namespace Metering

/-- Who hears of changes. -/
inductive Listener where
  | observer (o : Observer)
  | supervisor

/-- A registry at its site, the listeners of each kind of change, the latest number given to an
observer of each label, the supervisor, and the settings that the service was made from. -/
structure Service where
  site : Site
  switchListeners : Subscriptions Listener
  rootListeners : Subscriptions Listener
  metricListeners : Subscriptions Listener
  tickets : NameMap (Channel × Nat)
  supervisor : Option Supervisor
  settings : Option Settings

namespace Service

/-- A registry on a host, with nobody listening. Its first notice goes into the log. -/
def new (host : Host) (now : Instant) (registry : Registry) : Service where
  site := (Site.mk host now registry []).adopt registry
  switchListeners := .empty
  rootListeners := .empty
  metricListeners := .empty
  tickets := .empty
  supervisor := none
  settings := none

/-- The service's registry. -/
def registry (s : Service) : Registry := s.site.registry

/-- The service with a changed registry, whose notices go into the log. -/
def adopt (s : Service) (r : Registry) : Service := { s with site := s.site.adopt r }

/-! ## Listening -/

/-- Who hears of changes of a kind. -/
def listeners (s : Service) : Channel → Subscriptions Listener
  | .switch => s.switchListeners
  | .root => s.rootListeners
  | .metric => s.metricListeners

/-- The service with others who hear of changes of a kind. -/
def setListeners (s : Service) (channel : Channel) (ls : Subscriptions Listener) : Service :=
  match channel with
  | .switch => { s with switchListeners := ls }
  | .root => { s with rootListeners := ls }
  | .metric => { s with metricListeners := ls }

/-- The service with one more listener, and the listener's number. -/
def addListener (s : Service) (channel : Channel) (l : Listener) : Service × Nat :=
  let (ls, id) := (s.listeners channel).add l
  (s.setListeners channel ls, id)

/-- The service without the listener of a number, and whether there was one. -/
def removeListener (s : Service) (channel : Channel) (id : Nat) : Service × Bool :=
  let (ls, found) := (s.listeners channel).remove id
  (s.setListeners channel ls, found)

/-- Lets an observer hear of changes of a kind. Its label stands for its number from now on. -/
def subscribe (s : Service) (channel : Channel) (o : Observer) : Service :=
  let (s, id) := s.addListener channel (.observer o)
  { s with tickets := s.tickets.insert o.label (channel, id) }

/-- Makes the latest observer of a label leave, or whoever has its number among those who hear of
another kind of change. Also says whether anybody left; nothing if the label is not known. -/
def leave (s : Service) (label : String) (among : Option Channel) : Service × Option Bool :=
  match s.tickets.get? label with
  | some (channel, id) =>
    let (s, found) := s.removeListener (among.getD channel) id
    (s, some found)
  | none => (s, none)

/-! ## The supervisor -/

/-- The reporters of the supervisor at the service's site; none without a supervisor. -/
def reporters (s : Service) : Reporters :=
  ⟨s.site, (s.supervisor.map Supervisor.reporters).getD .empty⟩

/-- The service after the supervisor has dealt with its reporters. -/
def setReporters (s : Service) (rs : Reporters) : Service :=
  { s with
    site := rs.site
    supervisor := s.supervisor.map fun v => { v with reporters := rs.byName } }

/-- Lets the supervisor deal with its reporters. -/
def supervised {α : Type} (s : Service) (deal : Reporters → Reporters × α) : Service × α :=
  let (rs, a) := deal s.reporters
  (s.setReporters rs, a)

/-- The names of the reporters. -/
def reporterNames (s : Service) : List String := s.reporters.byName.names

/-- What a listing of values shows of the supervisor. -/
def supervisorShown (s : Service) : String :=
  s!"MetricManagementService \x7b registry: {s.registry.shown}, reporters: " ++
    s!"{Text.listing s.reporterNames} \x7d"

/-- Makes a supervisor without reporters, which hears of all changes. -/
def hire (s : Service) : Service × Supervisor :=
  let (s, first) := s.addListener .switch .supervisor
  let (s, second) := s.addListener .root .supervisor
  let (s, third) := s.addListener .metric .supervisor
  (s, ⟨.empty, first, second, third⟩)

/-- Ends a supervisor: it hears of nothing any more, and its reporters are stopped. -/
def retire (s : Service) (v : Supervisor) : Service × Bool :=
  let (s, _) := s.removeListener .switch v.switchTicket
  let (s, _) := s.removeListener .root v.rootTicket
  let (s, _) := s.removeListener .metric v.metricTicket
  let (site, whole) := (Reporters.mk s.site v.reporters).close
  ({ s with site := site }, whole)

/-- Ends the supervisor, if there is one. -/
def dropSupervisor (s : Service) : Service × Bool :=
  match s.supervisor with
  | some old => ({ s with supervisor := none } : Service).retire old
  | none => (s, true)

/-- Puts a new supervisor in the place of the one that was there, which is ended afterwards. -/
def renewSupervisor (s : Service) : Service × Bool :=
  let old := s.supervisor
  let (s, v) := s.hire
  let s : Service := { s with supervisor := some v }
  match old with
  | some old => s.retire old
  | none => (s, true)

end Service

end Metering
