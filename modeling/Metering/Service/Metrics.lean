import Metering.Service.Basic

/-!
# Metering — a service's metrics

What one who holds a service does with its metrics, at the service's clock.

* `Service.metric`, `Service.gauge`, `Service.cachedGauge`, `Service.find?` — getting a handle;
* `Service.update`, `Service.lap` — updates;
* `Service.statistic?`, `Service.reading`, `Service.samples` — reading;
* `Service.remove` — removing.
-/

namespace Metering.Service

/-- The service after its registry has answered. -/
def adopting {α : Type} (s : Service) (outcome : Registry × α) : Service × α :=
  (s.adopt outcome.1, outcome.2)

/-- The metric under a name: a plain one without ancestors, a group with levels for them. -/
def metric (s : Service) (measure : Measure) (name : String) (level : Level)
    (ancestors : List Level) : Service × Except Failure Handle :=
  s.adopting (s.registry.metric s.site.now measure name level ancestors)

/-- One more source of gauge values, which was not asked yet. -/
def addSource (s : Service) : Service × Nat := s.adopting s.registry.addSource

/-- How often a source was asked. -/
def timesAsked (s : Service) (source : Nat) : Nat := s.registry.statistics.timesAsked source

/-- The gauge under a plain name. -/
def gauge (s : Service) (name : String) (level : Level) (supplier : Supplier) (source : Nat) :
    Service × Except Failure Handle :=
  s.adopting (s.registry.gauge name level supplier source)

/-- The cached gauge under a plain name. -/
def cachedGauge (s : Service) (name : String) (level : Level) (timeout : Duration)
    (supplier : Supplier) (source : Nat) : Service × Except Failure Handle :=
  s.adopting (s.registry.cachedGauge name level timeout supplier source)

/-- The handle of what is registered under a name. -/
def find? (s : Service) (wanted : Kind) (name : String) : Except Fault Handle :=
  s.registry.find? wanted name

/-- Removes what is registered under a name. -/
def remove (s : Service) (name : String) : Service × Except Fault Bool :=
  s.adopting (s.registry.remove name)

/-- Tells an update to the metrics of a handle. -/
def update (s : Service) (h : Handle) (u : Update) : Service :=
  s.adopt (s.registry.update s.site.now h u)

/-- Tells the metrics of a handle the time since a stopwatch was started. -/
def lap (s : Service) (h : Handle) (w : Stopwatch) : Service :=
  s.update h (.duration (w.elapsed s.site.now))

/-- What the metric of a handle has recorded. -/
def statistic? (s : Service) (h : Handle) : Option Statistic := s.registry.statistic? h

/-- What the metric of a handle shows. -/
def reading (s : Service) (h : Handle) : Service × Option Reading :=
  s.adopting (s.registry.reading s.site.now h)

/-- The samples of the stored statistics whose names pass a test. -/
def samples (s : Service) (accepts : String → Bool) : Service × Option (List Sample) :=
  s.adopting (s.registry.samples s.site.now accepts)

/-- Stores a statistic under a name for reporters to read, with the kind of the one whose place it
takes. -/
def store (s : Service) (name : String) (statistic : Statistic) : Service × Option Kind :=
  let r := s.registry
  let (statistics, place) := r.statistics.add statistic
  (s.adopt { r with statistics := statistics, store := r.store.insert name place },
    r.store.kind? r.statistics name)

/-- The sample of what is stored under a name, under another name. There is none if nothing is
stored, and an empty one if a supplier broke off. -/
def sampleAs (s : Service) (name other : String) : Option (Service × Option Sample) :=
  let r := s.registry
  (r.store.get? name).map fun place =>
    let (statistics, shown) := r.statistics.read s.site.now place
    (s.adopt { r with statistics := statistics }, shown.map fun reading => ⟨other, reading⟩)

/-- Removes the statistic under a name from what reporters read. Also says whether it was
there. -/
def unstore (s : Service) (name : String) : Service × Bool :=
  let r := s.registry
  (s.adopt { r with store := r.store.erase name }, r.store.contains name)

/-- Removes all statistics from what reporters read. -/
def clearStore (s : Service) : Service :=
  s.adopt { s.registry with store := .empty }

end Metering.Service
