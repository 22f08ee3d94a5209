import Metering.Decimal.Binary64

/-!
# Metering — the fewest digits that read back

A double stands for all reals that are nearer to it than to any other double. Of the decimals in
that interval `shortest` takes one with the fewest digits, and of those the nearest.

* `Tie` — what to do when two decimals are equally near;
* `Figure` — a decimal as digits and a power of ten;
* `pointOf` — the place of the decimal point in a fraction;
* `shortest` — the figure of a double.
-/

namespace Metering.Decimal

/-- Which of two equally near figures is taken. -/
inductive Tie where
  | even
  | up
  deriving DecidableEq

/-- The decimal `digits * 10 ^ scale`. -/
structure Figure where
  digits : Nat
  scale : Int
  deriving DecidableEq

/-- How many decimal digits a number has; none for zero. -/
def digitCount (n : Nat) : Nat :=
  if n = 0 then 0 else digitCount (n / 10) + 1
termination_by n
decreasing_by omega

/-- The place `p` of the decimal point of a positive fraction: the fraction lies in
`[10 ^ (p - 1), 10 ^ p)`. -/
def pointOf (num den : Nat) : Int :=
  if den ≤ num then digitCount (num / den) else 1 - digitCount ((den - 1) / num)

/-- The reals that round to a double: three numerators over one denominator, and whether the
ends belong to it. -/
structure Neighbourhood where
  low : Nat
  value : Nat
  high : Nat
  den : Nat
  closed : Bool

/-- The neighbourhood of `m * 2 ^ e`. Below a power of two the next double is only half as far
away. The ends round to the even one of two neighbours. -/
def neighbourhood (m : Nat) (e : Int) : Neighbourhood :=
  let below := if m = 1 <<< 52 ∧ -1074 < e then 1 else 2
  { low := (scaled (4 * m - below) (e - 2)).1
    value := (scaled (4 * m) (e - 2)).1
    high := (scaled (4 * m + 2) (e - 2)).1
    den := (scaled (4 * m) (e - 2)).2
    closed := m % 2 == 0 }

/-- Whether `num / den` lies in the neighbourhood, given as a numerator and a denominator. -/
def Neighbourhood.holds (v : Neighbourhood) (num den : Nat) : Bool :=
  if v.closed then v.low * den ≤ num * v.den && num * v.den ≤ v.high * den
  else v.low * den < num * v.den && num * v.den < v.high * den

/-- The figure on the grid of multiples of `10 ^ scale` that lies in the neighbourhood and is
nearest to its value, if there is one. -/
def Neighbourhood.onGrid (v : Neighbourhood) (tie : Tie) (scale : Int) : Option Figure :=
  let up := if scale < 0 then Nat.pow 10 (-scale).toNat else 1
  let down := if scale < 0 then 1 else Nat.pow 10 scale.toNat
  let lower := v.value * up / (v.den * down)
  let rest := v.value * up % (v.den * down)
  let lowerHolds := v.holds (lower * down) up
  let upperHolds := v.holds ((lower + 1) * down) up
  let takeUpper : Bool :=
    match compare (2 * rest) (v.den * down) with
    | .lt => false
    | .gt => true
    | .eq => tie == .up || lower % 2 == 1
  if lowerHolds && upperHolds then some ⟨if takeUpper then lower + 1 else lower, scale⟩
  else if lowerHolds then some ⟨lower, scale⟩
  else if upperHolds then some ⟨lower + 1, scale⟩
  else none

/-- A figure whose last digit is not needlessly zero. -/
def Figure.tidy (f : Figure) : Figure :=
  if f.digits % 10 = 0 ∧ f.digits ≠ 0 then ⟨f.digits / 10, f.scale + 1⟩ else f

/-- The shortest figure that reads back as `m * 2 ^ e`, for a positive `m`: the first grid that
meets the neighbourhood, from one digit to seventeen. -/
def shortest (tie : Tie) (m : Nat) (e : Int) : Figure :=
  let v := neighbourhood m e
  let point := pointOf v.value v.den
  match (List.range 17).findSome? fun n => v.onGrid tie (point - (n + 1 : Nat)) with
  | some figure => figure.tidy
  | none => ⟨0, 0⟩

end Metering.Decimal
