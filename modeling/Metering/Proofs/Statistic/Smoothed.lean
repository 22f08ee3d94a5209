import Mathlib.Algebra.Order.Field.Rat
import Mathlib.Data.List.Forall2
import Mathlib.Order.MinMax
import Mathlib.Tactic.Linarith
import Mathlib.Tactic.Ring
import Metering.Decimal.Shortest
import Metering.Proofs.Statistic.Pending

/-!
# Metering — moving averages in exact fractions

An average goes from its value towards the rate of the last interval, by a share of the way that is
the same for all intervals. Computed exactly it stays between the rates it has seen, it is larger if
they are, and what is left of it after idle intervals is a power. Of three averages that forget at
different shares the one that forgets least is the largest in silence.

* `blend` — a share of the way from one number to another, with `blend_self` and `blend_mono`;
* `MovingAverage.averaged`, `Averages.averaged` — the averages after intervals with some counts;
* `rate_foldl_bounds`, `rate_foldl_mono`, `foldl_idle` — what holds of one average, by induction on
  the intervals;
* `Smoothing.Proper` — shares at which three averages forget less and less;
* `averages_bounded_monotone` — what holds of the three averages of any meter;
* `exactSmoothing` — the shares that are in use, with their exact values.
-/

namespace Metering

/-! ## A share of the way -/

section Blending

variable {share : Rat} {a b x y : Rat}

/-- A share of the way from one number to another. -/
def blend (share a x : Rat) : Rat := a + share * (x - a)

theorem blend_self (share a : Rat) : blend share a a = a := by
  rw [blend, sub_self, mul_zero, add_zero]

theorem blend_zero (share a : Rat) : blend share a 0 = a * (1 - share) := by
  rw [blend]
  ring

theorem blend_mono (hPos : 0 ≤ share) (hOne : share ≤ 1) (hFrom : a ≤ b) (hTo : x ≤ y) :
    blend share a x ≤ blend share b y := by
  have hLeft : (1 - share) * a ≤ (1 - share) * b :=
    mul_le_mul_of_nonneg_left hFrom (sub_nonneg.mpr hOne)
  have hRight : share * x ≤ share * y := mul_le_mul_of_nonneg_left hTo hPos
  calc blend share a x = (1 - share) * a + share * x := by rw [blend]; ring
    _ ≤ (1 - share) * b + share * y := add_le_add hLeft hRight
    _ = blend share b y := by rw [blend]; ring

end Blending

/-! ## The rate of an interval -/

/-- The events per second of an interval, which has five seconds. -/
def intervalRate (count : UInt64) : Rat := count.toNat / 5

theorem intervalRate_zero : intervalRate 0 = 0 := by
  have hNone : ((0 : UInt64).toNat : Rat) = 0 := rfl
  rw [intervalRate, hNone, zero_div]

theorem intervalRate_mono {count more : UInt64} (h : count ≤ more) :
    intervalRate count ≤ intervalRate more := by
  have hCounts : (count.toNat : Rat) ≤ more.toNat := Rat.natCast_le_natCast.mpr h
  exact div_le_div_of_nonneg_right hCounts (by decide)

theorem intervalRate_pos {count : UInt64} (h : 0 < count) : 0 < intervalRate count := by
  have hCount : (0 : Rat) < count.toNat := Rat.natCast_pos.mpr h
  exact div_pos hCount (by decide)

/-! ## One average -/

namespace MovingAverage

variable {share low high rate other : Rat} {a : MovingAverage Rat} {count : UInt64}
  {counts more : List UInt64}

/-- The average after intervals with some counts. -/
def averaged (share : Rat) (counts : List UInt64) : MovingAverage Rat :=
  counts.foldl (fold share) start

/-- The first interval sets the rate. -/
theorem averaged_cons (share : Rat) (count : UInt64) (rest : List UInt64) :
    averaged share (count :: rest) = rest.foldl (fold share) ⟨intervalRate count, true⟩ := rfl

/-- Each further one moves it. -/
theorem fold_primed (share rate : Rat) (count : UInt64) :
    fold share ⟨rate, true⟩ count = ⟨blend share rate (intervalRate count), true⟩ := rfl

/-- An average stays between bounds of all the rates. -/
theorem rate_foldl_bounds (hPos : 0 ≤ share) (hOne : share ≤ 1) (hRate : low ≤ rate ∧ rate ≤ high)
    (hRates : ∀ count ∈ counts, low ≤ intervalRate count ∧ intervalRate count ≤ high) :
    low ≤ (counts.foldl (fold share) ⟨rate, true⟩).rate ∧
      (counts.foldl (fold share) ⟨rate, true⟩).rate ≤ high := by
  -- by induction on the intervals, from any rate between the bounds
  induction counts generalizing rate with
  | nil => exact hRate
  | cons count rest ih =>
    obtain ⟨hCount, hRest⟩ := List.forall_mem_cons.mp hRates
    rw [List.foldl_cons, fold_primed]
    refine ih ⟨?_, ?_⟩ hRest
    · calc low = blend share low low := (blend_self share low).symm
        _ ≤ blend share rate (intervalRate count) := blend_mono hPos hOne hRate.1 hCount.1
    · calc blend share rate (intervalRate count)
          ≤ blend share high high := blend_mono hPos hOne hRate.2 hCount.2
        _ = high := blend_self share high

/-- An average is larger if the rates are. -/
theorem rate_foldl_mono (hPos : 0 ≤ share) (hOne : share ≤ 1) (hRate : rate ≤ other)
    (h : List.Forall₂ (· ≤ ·) counts more) :
    (counts.foldl (fold share) ⟨rate, true⟩).rate ≤
      (more.foldl (fold share) ⟨other, true⟩).rate := by
  induction h generalizing rate other with
  | nil => exact hRate
  | cons hCount _ ih =>
    rw [List.foldl_cons, List.foldl_cons, fold_primed, fold_primed]
    exact ih (blend_mono hPos hOne hRate (intervalRate_mono hCount))

/-- What is left of an average after idle intervals. -/
theorem foldl_idle (share rate : Rat) (idle : Nat) :
    (List.replicate idle 0).foldl (fold share) ⟨rate, true⟩ =
      ⟨rate * (1 - share) ^ idle, true⟩ := by
  induction idle generalizing rate with
  | zero => rw [pow_zero, mul_one]; rfl
  | succ idle ih =>
    rw [List.replicate_succ, List.foldl_cons, fold_primed, intervalRate_zero, blend_zero, ih,
      pow_succ', mul_assoc]

/-! ### From the first interval on -/

theorem averaged_bounds (hPos : 0 ≤ share) (hOne : share ≤ 1) (hSome : counts ≠ [])
    (hRates : ∀ count ∈ counts, low ≤ intervalRate count ∧ intervalRate count ≤ high) :
    low ≤ (averaged share counts).rate ∧ (averaged share counts).rate ≤ high := by
  obtain ⟨count, rest, rfl⟩ := List.exists_cons_of_ne_nil hSome
  obtain ⟨hCount, hRest⟩ := List.forall_mem_cons.mp hRates
  exact rate_foldl_bounds hPos hOne hCount hRest

theorem averaged_mono (hPos : 0 ≤ share) (hOne : share ≤ 1)
    (h : List.Forall₂ (· ≤ ·) counts more) :
    (averaged share counts).rate ≤ (averaged share more).rate := by
  cases h with
  | nil => exact le_rfl
  | cons hCount hRest => exact rate_foldl_mono hPos hOne (intervalRate_mono hCount) hRest

theorem averaged_nonneg (hPos : 0 ≤ share) (hOne : share ≤ 1) (counts : List UInt64) :
    0 ≤ (averaged share counts).rate := by
  -- no count is below zero, and before the first interval the rate is zero
  have hNone : List.Forall₂ (· ≤ ·) (List.replicate counts.length 0) counts := by
    induction counts with
    | nil => exact .nil
    | cons count rest ih => exact .cons UInt64.zero_le ih
  refine le_trans ?_ (averaged_mono hPos hOne hNone)
  cases counts.length with
  | zero => exact le_rfl
  | succ idle =>
    rw [List.replicate_succ, averaged_cons, foldl_idle, intervalRate_zero, zero_mul]

/-- After an interval with events, only powers of what is not forgotten are left. -/
theorem averaged_idle (share : Rat) (count : UInt64) (idle : Nat) :
    averaged share (count :: List.replicate idle 0) =
      ⟨intervalRate count * (1 - share) ^ idle, true⟩ := by
  rw [averaged_cons, foldl_idle]

/-- An idle interval does not let an average grow, nor fall below zero. -/
theorem rate_fold_idle (hPos : 0 ≤ share) (hOne : share ≤ 1) (h : 0 ≤ a.rate) :
    0 ≤ (a.fold share 0).rate ∧ (a.fold share 0).rate ≤ a.rate := by
  obtain ⟨rate, primed⟩ := a
  cases primed with
  | false =>
    have hFirst : (fold share ⟨rate, false⟩ 0).rate = 0 := intervalRate_zero
    rw [hFirst]
    exact ⟨le_rfl, h⟩
  | true =>
    rw [fold_primed, intervalRate_zero, blend_zero]
    exact ⟨mul_nonneg h (sub_nonneg.mpr hOne), mul_le_of_le_one_right h (sub_le_self 1 hPos)⟩

theorem rate_foldl_idle_le (hPos : 0 ≤ share) (hOne : share ≤ 1) (h : 0 ≤ a.rate) (idle : Nat) :
    ((List.replicate idle 0).foldl (fold share) a).rate ≤ a.rate := by
  induction idle generalizing a with
  | zero => exact le_rfl
  | succ idle ih =>
    obtain ⟨hNonneg, hLess⟩ := rate_fold_idle hPos hOne h
    rw [List.replicate_succ, List.foldl_cons]
    exact (ih hNonneg).trans hLess

theorem averaged_append_idle_le (hPos : 0 ≤ share) (hOne : share ≤ 1) (counts : List UInt64)
    (idle : Nat) :
    (averaged share (counts ++ List.replicate idle 0)).rate ≤ (averaged share counts).rate := by
  rw [averaged, List.foldl_append]
  exact rate_foldl_idle_le hPos hOne (averaged_nonneg hPos hOne counts) idle

/-- The less is forgotten of an interval with events, the more is left of it in silence. -/
theorem averaged_idle_lt {less : Rat} (hLess : less < share) (hOne : share < 1) (hCount : 0 < count)
    {idle : Nat} (hIdle : 0 < idle) :
    (averaged share (count :: List.replicate idle 0)).rate <
      (averaged less (count :: List.replicate idle 0)).rate := by
  have hPower : (1 - share) ^ idle < (1 - less) ^ idle :=
    pow_lt_pow_left₀ (sub_lt_sub_left hLess 1) (sub_nonneg.mpr hOne.le) hIdle.ne'
  rw [averaged_idle, averaged_idle]
  exact mul_lt_mul_of_pos_left hPower (intervalRate_pos hCount)

end MovingAverage

/-! ## Three averages -/

/-- The shares of three averages, from the shortest time to the longest. -/
def Smoothing.shares {N : Type} (s : Smoothing N) : List N := [s.one, s.five, s.fifteen]

/-- Each average goes a share of the way to the rate of an interval, and the longer its time the
smaller is the share. -/
structure Smoothing.Proper (s : Smoothing Rat) : Prop where
  between : ∀ share ∈ s.shares, 0 < share ∧ share < 1
  decreasing : s.shares.Pairwise (· > ·)

namespace Averages

variable {s : Smoothing Rat} {counts more : List UInt64}

/-- The three rates, from the shortest time to the longest. -/
def rates {N : Type} (a : Averages N) : List N := [a.one.rate, a.five.rate, a.fifteen.rate]

/-- The averages after intervals with some counts. -/
def averaged (s : Smoothing Rat) (counts : List UInt64) : Averages Rat :=
  counts.foldl (fold s) start

/-- Averages in exact fractions that intervals are folded into. -/
abbrev exact (s : Smoothing Rat) : Accumulator (Averages Rat) := ⟨.start, .fold s⟩

theorem rates_averaged (s : Smoothing Rat) (counts : List UInt64) :
    (averaged s counts).rates =
      s.shares.map fun share => (MovingAverage.averaged share counts).rate := by
  have hFoldl (a : Averages Rat) : counts.foldl (fold s) a =
      ⟨counts.foldl (MovingAverage.fold s.one) a.one,
        counts.foldl (MovingAverage.fold s.five) a.five,
        counts.foldl (MovingAverage.fold s.fifteen) a.fifteen⟩ := by
    induction counts generalizing a with
    | nil => rfl
    | cons count rest ih => exact ih (a.fold s count)
  rw [averaged, hFoldl]
  rfl

/-- What holds of one average at each share, compared for two runs, holds of all three. -/
theorem forall₂_rates {counts more : List UInt64}
    (h : ∀ share ∈ s.shares,
      (MovingAverage.averaged share counts).rate ≤ (MovingAverage.averaged share more).rate) :
    List.Forall₂ (· ≤ ·) (averaged s counts).rates (averaged s more).rates := by
  rw [rates_averaged, rates_averaged, List.forall₂_map_left_iff, List.forall₂_map_right_iff,
    List.forall₂_same]
  exact h

/-- The averages are between the smallest and the largest rate of an interval. -/
theorem bounds_of_mem {rate : Rat} (h : s.Proper) (hSome : counts ≠ [])
    (hRate : rate ∈ (averaged s counts).rates) :
    ∃ low high, (counts.map intervalRate).min? = some low ∧
      (counts.map intervalRate).max? = some high ∧ low ≤ rate ∧ rate ≤ high := by
  have hRates : counts.map intervalRate ≠ [] := fun hNil => hSome (List.map_eq_nil_iff.mp hNil)
  obtain ⟨low, hLow⟩ := Option.isSome_iff_exists.mp (List.isSome_min?_of_ne_nil hRates)
  obtain ⟨high, hHigh⟩ := Option.isSome_iff_exists.mp (List.isSome_max?_of_ne_nil hRates)
  have hBetween : ∀ count ∈ counts, low ≤ intervalRate count ∧ intervalRate count ≤ high := by
    intro count hCount
    have hMem : intervalRate count ∈ counts.map intervalRate := List.mem_map_of_mem hCount
    exact ⟨(List.min?_eq_some_iff.mp hLow).2 _ hMem, (List.max?_eq_some_iff.mp hHigh).2 _ hMem⟩
  rw [rates_averaged] at hRate
  obtain ⟨share, hShare, rfl⟩ := List.mem_map.mp hRate
  obtain ⟨hPos, hOne⟩ := h.between share hShare
  exact ⟨low, high, hLow, hHigh, MovingAverage.averaged_bounds hPos.le hOne.le hSome hBetween⟩

theorem nonneg_of_mem {rate : Rat} (h : s.Proper) (hRate : rate ∈ (averaged s counts).rates) :
    0 ≤ rate := by
  rw [rates_averaged] at hRate
  obtain ⟨share, hShare, rfl⟩ := List.mem_map.mp hRate
  obtain ⟨hPos, hOne⟩ := h.between share hShare
  exact MovingAverage.averaged_nonneg hPos.le hOne.le counts

/-- Computed exactly, with shares between zero and one that get smaller from the shortest time to the
longest, the averages of a meter are those of the counts that are folded, whatever is done with it.
After any intervals, but at least one, each of the three is between the smallest and the largest rate
of an interval, and so not below zero. None of them grows in idle intervals, and each of them is as
large or larger if all the counts are. If all events are in the first interval, then after any idle
intervals, but at least one, they are larger the longer their time. -/
theorem averages_bounded_monotone (h : s.Proper) :
    (∀ start uses,
      letI := exact s
      ((Meter.new start : Meter (Averages Rat)).used uses).folded =
        averaged s (Meter.recorded start uses)) ∧
    (∀ counts, counts ≠ [] → ∀ rate ∈ (averaged s counts).rates,
      (∃ low high, (counts.map intervalRate).min? = some low ∧
        (counts.map intervalRate).max? = some high ∧ low ≤ rate ∧ rate ≤ high) ∧ 0 ≤ rate) ∧
    (∀ counts idle, List.Forall₂ (· ≤ ·)
      (averaged s (counts ++ List.replicate idle 0)).rates (averaged s counts).rates) ∧
    (∀ counts more, List.Forall₂ (· ≤ ·) counts more →
      List.Forall₂ (· ≤ ·) (averaged s counts).rates (averaged s more).rates) ∧
    ∀ count idle, 0 < count → 0 < idle →
      (averaged s (count :: List.replicate idle 0)).rates.Pairwise (· < ·) := by
  refine ⟨fun start uses => ?_, fun counts hSome rate hRate => ?_, fun counts idle => ?_,
    fun counts more hMore => ?_, fun count idle hCount hIdle => ?_⟩
  · let _ := exact s
    exact Meter.folded_used start uses
  · exact ⟨bounds_of_mem h hSome hRate, nonneg_of_mem h hRate⟩
  · refine forall₂_rates fun share hShare => ?_
    obtain ⟨hPos, hOne⟩ := h.between share hShare
    exact MovingAverage.averaged_append_idle_le hPos.le hOne.le counts idle
  · refine forall₂_rates fun share hShare => ?_
    obtain ⟨hPos, hOne⟩ := h.between share hShare
    exact MovingAverage.averaged_mono hPos.le hOne.le hMore
  · rw [rates_averaged, List.pairwise_map]
    refine h.decreasing.imp_of_mem fun hShare _ hLess => ?_
    exact MovingAverage.averaged_idle_lt hLess (h.between _ hShare).2 hCount hIdle

end Averages

/-! ## The shares in use -/

/-- The exact value of a double; zero if it is not finite. -/
def exactly (x : Float) : Rat :=
  match Decimal.Binary64.ofFloat x with
  | .finite negative m e =>
    let value : Rat := (Decimal.scaled m e).1 / (Decimal.scaled m e).2
    if negative then -value else value
  | .nan | .infinite _ => 0

/-- The shares in use, with their exact values. -/
def exactSmoothing : Smoothing Rat :=
  ⟨exactly floatSmoothing.one, exactly floatSmoothing.five, exactly floatSmoothing.fifteen⟩

theorem proper_exactSmoothing : exactSmoothing.Proper := by
  constructor <;> decide +kernel

namespace Averages

theorem averages_bounded_monotone_in_use :
    exactSmoothing.Proper ∧
    (∀ rate ∈ (averaged exactSmoothing [60, 5, 10]).rates, 1 ≤ rate ∧ rate ≤ 12) ∧
    (averaged exactSmoothing [60, 0, 0]).rates.Pairwise (· < ·) := by
  obtain ⟨-, hBounds, -, -, hOrder⟩ := averages_bounded_monotone proper_exactSmoothing
  have hLow : ([60, 5, 10].map intervalRate).min? = some 1 := by decide +kernel
  have hHigh : ([60, 5, 10].map intervalRate).max? = some 12 := by decide +kernel
  refine ⟨proper_exactSmoothing, fun rate hRate => ?_, hOrder 60 2 (by decide) (by decide)⟩
  obtain ⟨low, high, hMin, hMax, hBetween⟩ := (hBounds _ (List.cons_ne_nil _ _) rate hRate).1
  rw [hLow] at hMin
  rw [hHigh] at hMax
  rw [← Option.some.inj hMin, ← Option.some.inj hMax] at hBetween
  exact hBetween

end Averages

end Metering
