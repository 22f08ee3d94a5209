import Metering.Service.Basic

/-!
# Metering — announcing changes

A change is announced to all who hear of its kind at that moment, one after another, when the
registry is already up to date. A listener may bring about further changes, which are announced
before the announcement goes on.

* `perform` — an action of an observer;
* `respond` — what a listener does on a change;
* `announce` — calls all listeners of a change;
* `Service.setEnabled`, `Service.setRoot`, `Service.setLevel` — changes with their announcement.
-/

namespace Metering.Service

/-! ## Changing and announcing -/

/-- The service with a changed registry; the change, if it was one, is announced. Also says
whether the announcement came to its end. -/
def changed (announce : Change → Service → Service × Bool) (s : Service)
    (outcome : Registry × Option Change) : Service × Bool :=
  let s := s.adopt outcome.1
  match outcome.2 with
  | some change => announce change s
  | none => (s, true)

/-- Configures the level of a registered metric and announces the change. -/
def changedLevel (announce : Change → Service → Service × Bool) (s : Service) (name : String)
    (level : Level) : Service × Except Failure Unit :=
  match s.registry.setLevel name level with
  | (r, .error fault) => (s.adopt r, .error (.refused fault))
  | (r, .ok change) =>
    match s.changed announce (r, change) with
    | (s, true) => (s, .ok ())
    | (s, false) => (s, .error .brokenOff)

/-! ## Listeners -/

/-- What an action brings about; nothing if it broke off. -/
abbrev Deed := Option (Except Failure Answer)

/-- The end of an action that has no answer. -/
def deedOf : Service × Bool → Service × Deed
  | (s, true) => (s, some (.ok .nothing))
  | (s, false) => (s, none)

/-- Performs an action. -/
def perform (announce : Change → Service → Service × Bool) (s : Service) :
    Action → Service × Deed
  | .probe name =>
    match s.registry.counts? name with
    | .ok on => (s, some (.ok (.truth on)))
    | .error fault => (s, some (.error (.refused fault)))
  | .count => (s, some (.ok (.number s.registry.countingSize)))
  | .subscribe channel label actions =>
    (s.subscribe channel ⟨label, actions⟩, some (.ok .nothing))
  | .leave label among =>
    match s.leave label among with
    | (s, some found) => (s, some (.ok (.truth found)))
    | (s, none) => (s, some (.ok .nothing))
  | .setRoot level => deedOf (s.changed announce (s.registry.setRoot level))
  | .setEnabled on => deedOf (s.changed announce (s.registry.setEnabled on))
  | .setLevel name level =>
    match s.changedLevel announce name level with
    | (s, .ok ()) => (s, some (.ok .nothing))
    | (s, .error .brokenOff) => (s, none)
    | (s, .error failure) => (s, some (.error failure))
  | .counter name level =>
    match s.registry.metric s.site.now .counter name level [] with
    | (r, .ok _) => (s.adopt r, some (.ok .nothing))
    | (r, .error failure) => (s.adopt r, some (.error failure))
  | .remove name =>
    match s.registry.remove name with
    | (r, .ok found) => (s.adopt r, some (.ok (.truth found)))
    | (r, .error fault) => (s.adopt r, some (.error (.refused fault)))
  | .breakOff => (s, none)

/-- Performs an action and puts into the journal what it brought about, unless it broke off. -/
def performNoted (announce : Change → Service → Service × Bool) (label : String)
    (action : Action) (s : Service) : Service × Bool :=
  match s.perform announce action with
  | (s, some outcome) => ({ s with site := s.site.note (.acted label action outcome) }, true)
  | (s, none) => (s, false)

/-- What a listener does on a change. An observer puts it into the journal and performs its
actions. -/
def respond (announce : Change → Service → Service × Bool) (change : Change) (l : Listener)
    (s : Service) : Service × Bool :=
  match l with
  | .observer o =>
    inTurn (performNoted announce o.label) o.actions
      { s with site := s.site.note (.heard o.label change) }
  | .supervisor => s.supervised fun rs => rs.heed change

/-- Announces a change to all who hear of its kind at that moment. Changes that listeners bring
about are announced in turn, up to a depth at which the announcement breaks off. -/
def announceTo : Nat → Change → Service → Service × Bool
  | 0, _, s => (s, false)
  | depth + 1, change, s =>
    inTurn (respond (announceTo depth) change) (s.listeners change.channel).subscribers s

/-- How deep announcements may be nested. -/
def announcementDepth : Nat := 1000

/-- Announces a change to all who hear of its kind at that moment. -/
def announce (change : Change) (s : Service) : Service × Bool :=
  announceTo announcementDepth change s

/-! ## Changes -/

/-- Switches all metrics on or off. Also says whether the announcement came to its end. -/
def setEnabled (s : Service) (on : Bool) : Service × Bool :=
  s.changed announce (s.registry.setEnabled on)

/-- Configures the root level. Also says whether the announcement came to its end. -/
def setRoot (s : Service) (level : Level) : Service × Bool :=
  s.changed announce (s.registry.setRoot level)

/-- Configures the level of a registered metric. -/
def setLevel (s : Service) (name : String) (level : Level) : Service × Except Failure Unit :=
  s.changedLevel announce name level

end Metering.Service
