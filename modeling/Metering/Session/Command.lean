import Metering.Service.Setup

/-!
# Metering — commands

What one may ask of a service one after another, and the replies. What is got under a label can
be used under that label later.

* `Names` — which names are meant;
* `StoreCommand` — questions to what reporters read, and its changes;
* `Command` — all that may be asked;
* `Reply`, `Unanswered` — what comes back.
-/

namespace Metering

/-- Which names are meant. -/
inductive Names where
  | all
  | startingWith (start : String)
  | listed (names : List String)

/-- Whether a name is meant. -/
def Names.holds : Names → String → Bool
  | all, _ => true
  | startingWith start, name => start.isPrefixOf name
  | listed names, name => names.contains name

/-- Questions to what reporters read, and its changes. -/
inductive StoreCommand where
  | kindOf (name : String)
  | contains (name : String)
  | remove (name : String)
  | names
  | clear
  | size
  | samples (names : Names)

/-- What one may ask of a service. -/
inductive Command where
  -- Getting something under a label.
  | metric (label : String) (measure : Measure) (name : String) (level : Level)
      (ancestors : List Level)
  | gauge (label : String) (name : String) (level : Level) (timeout : Option Duration)
      (supplier : Supplier)
  | find (label : String) (kind : Kind) (name : String)
  | filter (label : String)
  -- Using what is under a label.
  | update (label : String) (u : Update)
  | timed (label : String) (took : Duration) (breaks : Bool)
  | read (label : String)
  | rates (label : String)
  | accepted (label : String) (names : List String)
  | timesAsked (label : String)
  -- The registry.
  | act (action : Action)
  | isEnabled
  | rootLevel
  | levelOf (name : String)
  | sizes
  | countingSamples
  | stored (command : StoreCommand)
  | registryShown
  | advance (d : Duration)
  | setWall (seconds : Int)
  -- The supervisor.
  | status
  | register (r : Report.Reporter)
  | addBuiltIn (r : BuiltIn)
  | discharge (name : String)
  | reporterNames
  | call (c : Call) (name : String)
  | callAll (c : Call)
  | isRunning (name : String)
  | supervisorShown
  | dropSupervisor
  | renewSupervisor
  -- The service.
  | activate
  | deactivate
  | settings

/-- What the registry and the supervisor come to. -/
structure Status where
  enabled : Bool
  root : Level
  size : Nat
  countingSize : Nat
  groupCount : Nat
  reporters : List String

/-- What comes back from a command. -/
inductive Reply where
  | nothing
  | truth (b : Bool)
  | truths (bs : List Bool)
  | number (n : Int)
  | numbers (ns : List Int)
  | text (s : String)
  | names (ns : List String)
  | level (l : Option Level)
  | kind (k : Option Kind)
  | value (x : Float)
  | spread (count : Int) (snapshot : Snapshot)
  | rates (r : Rates)
  | samples (ss : List Sample)
  | status (s : Status)
  | settings (s : Option Settings)

/-- Why there is no reply. -/
inductive Unanswered where
  | failed (failure : Failure)
  /-- Nothing was got under the label. -/
  | unknownLabel
  /-- What is under the label cannot be used so. -/
  | unfit

end Metering
