import Metering.Change
import Metering.Failure

/-!
# Metering — observers

An observer hears of the changes of one kind. It may act on what it hears, and its actions may
change what counts in turn.

* `Action` — what an observer does when it hears of a change;
* `Answer` — what an action brings about;
* `Observer` — the label of an observer, and its actions in their order.
-/

namespace Metering

/-- What an observer does when it hears of a change. -/
inductive Action where
  /-- Asks whether a metric counts. -/
  | probe (name : String)
  /-- Asks how many metrics count. -/
  | count
  /-- Lets another observer, with actions of its own, hear of changes. -/
  | subscribe (channel : Channel) (label : String) (actions : List Action)
  /-- Makes the latest observer of a label leave, or the one with its number among those who hear
  of another kind of change. -/
  | leave (label : String) (among : Option Channel)
  | setRoot (level : Level)
  | setLevel (name : String) (level : Level)
  | setEnabled (on : Bool)
  /-- Asks for a counter under a plain name. -/
  | counter (name : String) (level : Level)
  | remove (name : String)
  | breakOff

/-- The name of an action. -/
def Action.label : Action → String
  | probe .. => "probe"
  | count => "count"
  | subscribe .. => "add_listener"
  | leave .. => "remove_listener"
  | setRoot .. => "set_root_level"
  | setLevel .. => "set_metric_level"
  | setEnabled true => "enable"
  | setEnabled false => "disable"
  | counter .. => "counter"
  | remove .. => "remove"
  | breakOff => "panic"

/-- Whether an action may be refused. -/
def Action.refusable : Action → Bool
  | probe .. | setLevel .. | counter .. | remove .. => true
  | count | subscribe .. | leave .. | setRoot .. | setEnabled .. | breakOff => false

/-- What an action brings about. -/
inductive Answer where
  | nothing
  | truth (b : Bool)
  | number (n : Nat)

/-- An observer with its label and what it does when it hears of a change. -/
structure Observer where
  label : String
  actions : List Action

end Metering
