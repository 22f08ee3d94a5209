import Metering.Scalar

/-!
# Metering — moving averages of event rates

Events are counted over intervals of five seconds. Each count is folded into an average that
forgets old intervals at a constant share.

* `MovingAverage.fold` — one interval more in one average;
* `Smoothing` — the shares of the averages over one, five and fifteen minutes;
* `Averages` — the three averages, and `Accumulator`, what they are an example of.
-/

namespace Metering

/-! ## One average -/

/-- A rate, and whether an interval has been folded into it yet. -/
structure MovingAverage (N : Type) where
  rate : N
  primed : Bool
  deriving DecidableEq

namespace MovingAverage

variable {N : Type} [Scalar N]

/-- The average of no interval. -/
def start : MovingAverage N := ⟨Scalar.ofCount 0, false⟩

/-- The average after one more interval: the first one sets the rate, and each further one moves
it by a share of the difference. -/
def fold (share : N) (a : MovingAverage N) (count : UInt64) : MovingAverage N :=
  let rate := Scalar.ofCount count / Scalar.ofCount 5
  if a.primed then ⟨a.rate + share * (rate - a.rate), true⟩ else ⟨rate, true⟩

end MovingAverage

/-! ## Three averages -/

/-- The shares at which three averages follow the rate. -/
structure Smoothing (N : Type) where
  one : N
  five : N
  fifteen : N

/-- The averages over one, five and fifteen minutes. -/
structure Averages (N : Type) where
  one : MovingAverage N
  five : MovingAverage N
  fifteen : MovingAverage N
  deriving DecidableEq

namespace Averages

variable {N : Type} [Scalar N]

/-- The averages of no interval. -/
def start : Averages N := ⟨.start, .start, .start⟩

/-- The averages after one more interval. -/
def fold (s : Smoothing N) (a : Averages N) (count : UInt64) : Averages N :=
  ⟨a.one.fold s.one count, a.five.fold s.five count, a.fifteen.fold s.fifteen count⟩

end Averages

/-- The shares of an interval of five seconds for one, five and fifteen minutes: one less the
exponential of minus a twelfth of a minute over the minutes. The exponential is a double already
when it is taken from one, so these are not the doubles nearest to the shares. -/
def floatSmoothing : Smoothing Float where
  one := Float.ofBits 0x3fb477f8204cb218
  five := Float.ofBits 0x3f90ecdbf52574e0
  fifteen := Float.ofBits 0x3f76b1453a243300

/-! ## What intervals are folded into -/

/-- Something that counts of intervals are folded into, one after the other. -/
class Accumulator (A : Type) where
  start : A
  fold : A → UInt64 → A

instance : Accumulator (Averages Float) := ⟨.start, .fold floatSmoothing⟩

/-- The counts themselves, in their order. -/
instance : Accumulator (List UInt64) := ⟨[], fun counts count => counts ++ [count]⟩

end Metering
