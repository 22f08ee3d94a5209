import Metering.Clock

/-!
# Metering — gauges

A gauge asks a supplier for its value whenever it is read. A cached gauge asks again only after
a time-out.

* `Supplier` — what answers; an answer may be missing, because the supplier broke off;
* `CachedGauge` — the last answer with its instant;
* `CachedGauge.read` — the value at an instant, and whether the supplier was asked.
-/

namespace Metering

/-- What a gauge asks: the answer to the first question, the second, and so on. No answer means
that the supplier broke off. -/
structure Supplier where
  answer : Nat → Option Float

/-- The supplier that gives the listed answers, and then the last one again and again. -/
def Supplier.ofList (answers : List (Option Float)) : Supplier where
  answer k := (answers[k]?.getD (answers.getLastD none))

/-- The last answer with the instant when it was given, and how long it serves. -/
structure CachedGauge where
  timeout : Duration
  cache : Option (Float × Instant)

namespace CachedGauge

/-- The gauge that has asked nothing yet. -/
def new (timeout : Duration) : CachedGauge := ⟨timeout, none⟩

/-- The last answer, if it serves still. -/
def fresh? (g : CachedGauge) (now : Instant) : Option Float :=
  match g.cache with
  | some (value, taken) => if since taken now < g.timeout then some value else none
  | none => none

/-- The gauge after an answer. -/
def refreshed (g : CachedGauge) (finished : Instant) (value : Float) : CachedGauge :=
  { g with cache := some (value, finished) }

/-- Reads the gauge, given what the supplier would answer and when: the gauge afterwards, the
value, and whether the supplier was asked. Without an answer nothing changes. -/
def read (g : CachedGauge) (now finished : Instant) (answer : Option Float) :
    CachedGauge × Option Float × Bool :=
  match g.fresh? now with
  | some value => (g, some value, false)
  | none =>
    match answer with
    | some value => (g.refreshed finished value, some value, true)
    | none => (g, none, true)

end CachedGauge

end Metering
