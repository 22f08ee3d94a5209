import Metering.Kind
import Metering.Level

/-!
# Metering — what can go wrong with a metric

A fault says why an operation on metrics was refused. It names the cause; the wording is in one
place, `Fault.message`.

* `NameDefect` — why a name with markers cannot be expanded;
* `Objection` — why an argument is not acceptable;
* `Fault` — the five classes of faults.
-/

namespace Metering

/-- Why a name cannot be expanded into its hierarchy. -/
inductive NameDefect where
  | tooFewSegments
  | markedTail
  deriving DecidableEq

/-- The defect in words. -/
def NameDefect.reason : NameDefect → String
  | tooFewSegments => "an annotated name needs at least three segments"
  | markedTail => "the last two segments cannot be annotated"

/-- Why an argument is not acceptable. -/
inductive Objection where
  | unknownLevel (text : String)
  | markedWithoutAncestors (name : String)
  | levelCount (name : String) (needed given : Nat)
  | switchValue (value : String)
  deriving DecidableEq

/-- The objection in words. -/
def Objection.reason : Objection → String
  | unknownLevel text => s!"unknown level '{text}'"
  | markedWithoutAncestors name =>
    s!"annotated name '{name}' can only be used with ancestor levels"
  | levelCount name needed given =>
    s!"'{name}' expands to {needed} metrics but {given} levels were given"
  | switchValue value => s!"TALLY_METRICS_ENABLED must be true or false, got '{value}'"

/-- Why an operation on metrics was refused. -/
inductive Fault where
  | invalidName (name : String) (defect : NameDefect)
  | invalidArgument (objection : Objection)
  | kindMismatch (name : String) (wanted found : Kind)
  | levelMismatch (name : String) (registered wanted : Level)
  | notFound (name : String)
  deriving DecidableEq

/-- The fault in words. -/
def Fault.message : Fault → String
  | invalidName name defect => s!"invalid metric name '{name}': {defect.reason}"
  | invalidArgument objection => s!"invalid argument: {objection.reason}"
  | kindMismatch name wanted found =>
    s!"metric '{name}' is already registered as a {found.label}, not a {wanted.label}"
  | levelMismatch name registered wanted =>
    s!"metric '{name}' is already registered with level {registered.label}, not {wanted.label}"
  | notFound name => s!"metric '{name}' not found"

/-- Reads a level, or says which text is not one. -/
def Level.read (text : String) : Except Fault Level :=
  match Level.ofText? text with
  | some level => .ok level
  | none => .error (.invalidArgument (.unknownLevel text))

end Metering
