import Metering.Registry.Basic

/-!
# Metering — removing metrics

* `Registry.removeMetric` — removes the metric of a plain name, and the groups it belongs to;
* `Registry.remove` — removes a metric, or a group with all its metrics.
-/

namespace Metering.Registry

/-- Removes the metric of a plain name with all groups that it belongs to. Also says whether it
was there. -/
def removeMetric (r : Registry) (name : String) : Registry × Bool :=
  if r.has name then
    let rest : Registry := { r with
      records := r.records.erase name
      store := r.store.erase name
      groups := r.groups.keep fun _ g => !g.members.contains name }
    (rest.tell (.removed name), true)
  else (r, false)

/-- Removes the metrics of several plain names. Also says whether any of them was there. -/
def removeAll (r : Registry) : List String → Registry × Bool
  | [] => (r, false)
  | name :: rest =>
    let (r, found) := r.removeMetric name
    let (r, more) := r.removeAll rest
    (r, found || more)

/-- Removes what is registered under a name: the metric of a plain name, or the group of a name
with markers and all its metrics. Also says whether anything was there. -/
def remove (r : Registry) (name : String) : Registry × Except Fault Bool :=
  if Name.isMarked name then
    match Name.hierarchy name with
    | .error fault => (r, .error fault)
    | .ok members =>
      let grouped := r.groups.contains name
      let (r, found) := ({ r with groups := r.groups.erase name } : Registry).removeAll members
      if grouped || found then (r.tell (.ungrouped name), .ok true) else (r, .ok false)
  else
    let (r, found) := r.removeMetric name
    (r, .ok found)

end Metering.Registry
