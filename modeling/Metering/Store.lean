import Metering.NameMap
import Metering.Statistic

/-!
# Metering — stores

Reporters read the statistics that are stored under names.

* `Store` — which statistic is stored under which name;
* `Store.samples` — what the stored statistics show, in the order of their names.
-/

namespace Metering

/-- The statistics under their names. -/
abbrev Store := NameMap StatId

namespace Store

/-- The stored statistics whose names pass a test. -/
def passing (store : Store) (accepts : String → Bool) : List (String × StatId) :=
  store.toList.filter fun e => accepts e.1

/-- The samples of the statistics whose names pass a test, in the order of the names. -/
def samples (store : Store) (s : Statistics) (now : Instant) (accepts : String → Bool) :
    Statistics × Option (List Sample) :=
  s.readAll now (store.passing accepts)

/-- The kind of the statistic under a name. -/
def kind? (store : Store) (s : Statistics) (name : String) : Option Kind :=
  ((store.get? name).bind s.get?).map Statistic.kind

end Store

end Metering
