import Metering.Level

/-!
# Metering — changes

* `Change` — a change of what counts: of the switch, the root level or the level of a name;
* `Channel` — the kinds of changes that one may subscribe to.
-/

namespace Metering

/-- A change of what counts. A level that was not configured before is missing. -/
inductive Change where
  | switch (on : Bool)
  | root (old new : Level)
  | metric (name : String) (old : Option Level) (new : Level)
  deriving DecidableEq

/-- The kinds of changes. -/
inductive Channel where
  | switch
  | root
  | metric
  deriving DecidableEq

/-- The kind of a change. -/
def Change.channel : Change → Channel
  | switch .. => .switch
  | root .. => .root
  | metric .. => .metric

end Metering
