import Metering.Service.Announcement
import Metering.Settings.Load

/-!
# Metering — setting up a service

* `Service.ofSettings` — a service with the reporters that its settings ask for, switched off;
* `Service.ofFile` — a service with the settings of a file and the environment;
* `Service.activate`, `Service.deactivate` — switching it on, if its settings allow, and off;
* `Service.addBuiltIn` — adding a reporter that is built in.
-/

namespace Metering.Service

open Report

/-- Builds and registers a reporter that is built in. -/
def addBuiltIn (s : Service) (b : BuiltIn) : Service × Except Failure Unit :=
  let (host, built) := b.build s.site.host none
  let s : Service := { s with site := { s.site with host := host } }
  match built with
  | .error fault => (s, .error (.unreported fault))
  | .ok p =>
    match s.supervised fun rs => rs.register (.polled p) with
    | (s, true) => (s, .ok ())
    | (s, false) => (s, .error .brokenOff)

/-- Goes on where a reporter was only switched off. -/
def allowDisabled : Service × Except Failure Unit → Service × Except Failure Unit
  | (s, .error (.unreported (.disabled name))) =>
    ({ s with site := s.site.say .debug s!"Reporter '{name}' is disabled." }, .ok ())
  | outcome => outcome

/-- Adds reporters, up to the first that cannot be built. One that is switched off is passed
over. -/
def addAll (s : Service) : List BuiltIn → Service × Except Failure Unit
  | [] => (s, .ok ())
  | b :: rest =>
    match allowDisabled (s.addBuiltIn b) with
    | (s, .ok ()) => s.addAll rest
    | (s, .error failure) => (s, .error failure)

/-- A service with the reporters that its settings ask for, switched off. -/
def ofSettings (host : Host) (now : Instant) (settings : Settings) :
    Service × Except Failure Unit :=
  let s := new host now (.new settings.levels settings.reservoir.window false)
  let (s, _) := s.renewSupervisor
  ({ s with settings := some settings } : Service).addAll settings.reporting.builtIns

/-- Why a service cannot be had from a file. -/
inductive FileFailure where
  | load (fault : LoadFault)
  | setup (failure : Failure)

/-- The settings after the switches of the environment, which are put into the log as far as they
were followed. -/
def overridden (host : Host) (settings : Settings) (environment : String → Option String) :
    Host × Except Fault Settings :=
  let (settings, done, fault) := settings.override environment
  (done.foldl (fun host o => host.say .debug o.message) host,
    match fault with
    | some fault => .error fault
    | none => .ok settings)

/-- A service with the settings of a file, as far as switches of the environment do not override
them. -/
def ofFile (host : Host) (now : Instant) (path : String) (environment : String → Option String) :
    Host × Except FileFailure Service :=
  match Settings.load host path with
  | (host, .error fault) => (host, .error (.load fault))
  | (host, .ok settings) =>
    match overridden host settings environment with
    | (host, .error fault) => (host, .error (.load (.override fault)))
    | (host, .ok settings) =>
      match ofSettings host now settings with
      | (s, .ok ()) => (s.site.host, .ok s)
      | (s, .error failure) => (s.site.host, .error (.setup failure))

/-- Switches the service on, if its settings allow it. -/
def activate (s : Service) : Service × Bool :=
  if s.settings.all Settings.enabled then s.setEnabled true
  else ({ s with site := s.site.say .info "Metrics are disabled in the configuration." }, true)

/-- Switches the service off. -/
def deactivate (s : Service) : Service × Bool := s.setEnabled false

end Metering.Service
