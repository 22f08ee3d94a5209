import Mathlib.Data.List.GetD
import Mathlib.Tactic.NormNum
import Metering.Proofs.Scalar
import Metering.Proofs.Statistic.Retained

/-!
# Metering — quantiles

A quantile is found at a place between the values, in ascending order. The places are counted from
one, there is one more of them than there are values, and at both ends the nearest value stands for
those that are not there. In exact fractions the quantiles therefore go along one line that joins the
values, from the smallest to the largest, and never down.

* `lookedUp?` — the quantile with all its look-ups, none of which fails (`lookedUp?_eq`);
* `quantile_of_le_zero`, `quantile_of_one_lt` — shares that are out of range, or no numbers, in
  floating point;
* `interpolated` — the line, and `quantileIn_eq_interpolated`;
* `interpolated_bounds`, `interpolated_mono` — between two places, and along all of them;
* `Bracketed`, `quantiles_bracketed` — what holds of the quantiles of any values.
-/

namespace Metering

namespace Snapshot

variable {s : Snapshot} {values : List Int64} {i j : Nat} {p p' q q' : Rat}

/-! ## Looking values up -/

/-- The place of a share. -/
def place {N : Type} [Scalar N] (s : Snapshot) (q : N) : N :=
  Scalar.unit q * Scalar.ofSize (s.size + 1)

section Looking

variable {N : Type} [Scalar N] {q : N}

theorem quantileIn_of_empty (hNone : s.size = 0) (q : N) : s.quantileIn q = Scalar.ofWord 0 :=
  if_pos hNone

/-- Before the first place stands the smallest value. -/
theorem quantileIn_of_before (hSome : s.size ≠ 0) (hBefore : Scalar.whole (s.place q) < 1) :
    s.quantileIn q = Scalar.ofWord s.min :=
  (if_neg hSome).trans (if_pos hBefore)

/-- From the last place on stands the largest value. -/
theorem quantileIn_of_beyond (hSome : s.size ≠ 0) (hBeyond : s.size ≤ Scalar.whole (s.place q)) :
    s.quantileIn q = Scalar.ofWord s.max := by
  have hPast : ¬ Scalar.whole (s.place q) < 1 := by omega
  exact (if_neg hSome).trans ((if_neg hPast).trans (dif_neg (Nat.not_lt_of_le hBeyond)))

/-- In between stands the weighted mean of two neighbours. -/
theorem quantileIn_of_inside (hPast : ¬ Scalar.whole (s.place q) < 1)
    (hInside : Scalar.whole (s.place q) < s.values.length) :
    s.quantileIn q = Scalar.ofWord (s.values[Scalar.whole (s.place q) - 1]) +
      Scalar.fraction (s.place q) * (Scalar.ofWord (s.values[Scalar.whole (s.place q)]) -
        Scalar.ofWord (s.values[Scalar.whole (s.place q) - 1])) := by
  have hSome : s.size ≠ 0 := by
    unfold size
    omega
  exact (if_neg hSome).trans ((if_neg hPast).trans (dif_pos hInside))

/-- The quantile with every value looked up where it should be: there is none if a look-up fails. -/
def lookedUp? (s : Snapshot) (q : N) : Option N :=
  if s.size = 0 then some (Scalar.ofWord 0)
  else if Scalar.whole (s.place q) < 1 then s.values[0]?.map Scalar.ofWord
  else if s.size ≤ Scalar.whole (s.place q) then s.values[s.size - 1]?.map Scalar.ofWord
  else do
    let lower ← s.values[Scalar.whole (s.place q) - 1]?
    let upper ← s.values[Scalar.whole (s.place q)]?
    return Scalar.ofWord lower +
      Scalar.fraction (s.place q) * (Scalar.ofWord upper - Scalar.ofWord lower)

/-- The smallest value stands first, and the largest last. -/
theorem getElem?_zero (hSome : s.size ≠ 0) : s.values[0]? = some s.min := by
  unfold min
  cases hValues : s.values with
  | nil => exact absurd (congrArg List.length hValues) hSome
  | cons first rest => rfl

theorem getElem?_last (hSome : s.size ≠ 0) : s.values[s.size - 1]? = some s.max := by
  rw [max, size, ← List.getLast?_eq_getElem?, List.getLastD_eq_getLast?]
  cases hLast : s.values.getLast? with
  | none => exact absurd (congrArg List.length (List.getLast?_eq_none_iff.mp hLast)) hSome
  | some last => rfl

/-- No look-up fails, in numbers of any type: however a place is rounded, it is made to fit. -/
theorem lookedUp?_eq (s : Snapshot) (q : N) : s.lookedUp? q = some (s.quantileIn q) := by
  unfold lookedUp?
  split
  · next hNone => rw [quantileIn_of_empty hNone]
  · next hSome =>
    split
    · next hBefore =>
      rw [getElem?_zero hSome, quantileIn_of_before hSome hBefore, Option.map_some]
    · next hPast =>
      split
      · next hBeyond =>
        rw [getElem?_last hSome, quantileIn_of_beyond hSome hBeyond, Option.map_some]
      · next hNotYet =>
        have hInside : Scalar.whole (s.place q) < s.values.length := Nat.lt_of_not_le hNotYet
        have hBelow : Scalar.whole (s.place q) - 1 < s.values.length := by omega
        rw [quantileIn_of_inside hPast hInside, List.getElem?_eq_getElem hInside,
          List.getElem?_eq_getElem hBelow]
        rfl

/-- Shares that are the same between zero and one have the same quantile. -/
theorem quantileIn_eq_of_unit_eq {q' : N} (h : Scalar.unit q = Scalar.unit q') :
    s.quantileIn q = s.quantileIn q' := by
  simp only [quantileIn, h]

end Looking

/-! ## Shares out of range -/

/-- What is no number, or not above zero, has the smallest value for its quantile, in floating point
as well: no rounding comes in between. -/
theorem quantile_of_le_zero {x : Float} (h : x.isNaN = true ∨ x ≤ 0) :
    s.quantile x = s.min.toFloat := by
  by_cases hNone : s.size = 0
  · have hMin : s.min = 0 := by
      rw [min, List.length_eq_zero_iff.mp hNone]
      rfl
    rw [hMin]
    exact quantileIn_of_empty hNone x
  · obtain ⟨sign, hZero⟩ := unpack_floatUnit h
    have hFirst : Scalar.whole (s.place x) = 0 := whole_mul_of_unpack_zero hZero _
    exact quantileIn_of_before hNone (by omega)

/-- What is above one, infinite or not, has the quantile of one. -/
theorem quantile_of_one_lt {x : Float} (h : 1 < x) : s.quantile x = s.quantile 1 := by
  have hUnit : floatUnit x = floatUnit 1 := by rw [floatUnit_of_one_lt h, floatUnit_one]
  exact quantileIn_eq_of_unit_eq hUnit

/-! ## Values in their order -/

/-- The value at a place counted from zero, and the largest one from the last place on. -/
def valueAt (s : Snapshot) (i : Nat) : Int64 := s.values.getD (Min.min i (s.size - 1)) 0

theorem valueAt_of_lt (h : i < s.values.length) : s.valueAt i = s.values[i] := by
  have hSelf : Min.min i (s.size - 1) = i := by
    unfold size
    omega
  rw [valueAt, hSelf, List.getD_eq_getElem _ _ h]

theorem valueAt_zero (s : Snapshot) : s.valueAt 0 = s.min := by
  rw [valueAt, Nat.zero_min, min, List.headD_eq_getD]

theorem valueAt_of_last (h : s.size ≤ i + 1) : s.valueAt i = s.max := by
  have hLast : Min.min i (s.size - 1) = s.size - 1 := by omega
  rw [valueAt, hLast, max, size, List.getLastD_eq_getLast?, List.getLast?_eq_getElem?,
    List.getD_eq_getElem?_getD]

theorem valueAt_mono (h : i ≤ j) : s.valueAt i ≤ s.valueAt j := by
  have hPlaces : Min.min i (s.size - 1) ≤ Min.min j (s.size - 1) := by omega
  obtain hSame | hLess := Nat.eq_or_lt_of_le hPlaces
  · unfold valueAt
    rw [hSame]
    exact Int64.le_refl _
  · have hIn : Min.min j (s.size - 1) < s.values.length := by
      unfold size at *
      omega
    rw [valueAt, valueAt, List.getD_eq_getElem _ _ hIn, List.getD_eq_getElem _ _ (hLess.trans hIn)]
    exact List.pairwise_iff_getElem.mp s.ascending _ _ _ _ hLess

theorem min_le_valueAt (s : Snapshot) (i : Nat) : s.min ≤ s.valueAt i := by
  rw [← valueAt_zero]
  exact valueAt_mono (Nat.zero_le i)

theorem valueAt_le_max (s : Snapshot) (i : Nat) : s.valueAt i ≤ s.max := by
  rw [← valueAt_of_last (i := i + s.size) (by omega)]
  exact valueAt_mono (Nat.le_add_right i s.size)

/-! ## The line between the values -/

theorem toInt_cast_le {a b : Int64} (h : a ≤ b) : (a.toInt : Rat) ≤ b.toInt :=
  Rat.intCast_le_intCast.mpr (Int64.le_iff_toInt_le.mp h)

/-- The number at a place, on the line between the values on either side of it. -/
def interpolated (s : Snapshot) (p : Rat) : Rat :=
  (s.valueAt (p.floor.toNat - 1)).toInt + (p - p.floor) *
    ((s.valueAt p.floor.toNat).toInt - (s.valueAt (p.floor.toNat - 1)).toInt)

/-- In exact fractions a quantile stands on the line. -/
theorem quantileIn_eq_interpolated (hSome : s.size ≠ 0) (q : Rat) :
    s.quantileIn q = s.interpolated (s.place q) := by
  -- before the first place and from the last one on the line is level: the weight does not matter
  unfold interpolated
  by_cases hBefore : Scalar.whole (s.place q) < 1
  · have hFirst : (s.place q).floor.toNat = 0 := Nat.lt_one_iff.mp hBefore
    rw [quantileIn_of_before hSome hBefore, hFirst, Nat.zero_sub, valueAt_zero, sub_self, mul_zero,
      add_zero]
    rfl
  · by_cases hInside : Scalar.whole (s.place q) < s.values.length
    · have hBelow : Scalar.whole (s.place q) - 1 < s.values.length := by omega
      rw [quantileIn_of_inside hBefore hInside, ← valueAt_of_lt hInside, ← valueAt_of_lt hBelow]
      rfl
    · have hBeyond : s.size ≤ (s.place q).floor.toNat := Nat.le_of_not_lt hInside
      have hLower : s.valueAt ((s.place q).floor.toNat - 1) = s.max := valueAt_of_last (by omega)
      have hUpper : s.valueAt (s.place q).floor.toNat = s.max := valueAt_of_last (by omega)
      rw [quantileIn_of_beyond hSome hBeyond, hLower, hUpper, sub_self, mul_zero, add_zero]
      rfl

/-- From a value to the next one the line does not go down. -/
theorem rise_nonneg (s : Snapshot) (i : Nat) :
    (0 : Rat) ≤ (s.valueAt i).toInt - (s.valueAt (i - 1)).toInt :=
  sub_nonneg.mpr (toInt_cast_le (valueAt_mono (Nat.sub_le i 1)))

/-- The line stays between the values on either side of a place. -/
theorem interpolated_bounds (s : Snapshot) (p : Rat) :
    ((s.valueAt (p.floor.toNat - 1)).toInt : Rat) ≤ s.interpolated p ∧
      s.interpolated p ≤ (s.valueAt p.floor.toNat).toInt := by
  have hRise := s.rise_nonneg p.floor.toNat
  have hLow : 0 ≤ p - p.floor := sub_nonneg.mpr (Rat.floor_le p)
  have hHigh : p - p.floor ≤ 1 := by
    have hNext : p < ((p.floor + 1 : Int) : Rat) := Rat.lt_floor_add_one p
    rw [Rat.intCast_add, Rat.intCast_one] at hNext
    linarith
  have hUp : 0 ≤ (p - p.floor) *
      ((s.valueAt p.floor.toNat).toInt - (s.valueAt (p.floor.toNat - 1)).toInt : Rat) :=
    mul_nonneg hLow hRise
  have hNotOver : (p - p.floor) *
      ((s.valueAt p.floor.toNat).toInt - (s.valueAt (p.floor.toNat - 1)).toInt : Rat) ≤
      (s.valueAt p.floor.toNat).toInt - (s.valueAt (p.floor.toNat - 1)).toInt :=
    mul_le_of_le_one_left hRise hHigh
  unfold interpolated
  constructor <;> linarith

/-- The line never goes down: not between two values, and not from one gap to the next. -/
theorem interpolated_mono (hNonneg : 0 ≤ p) (h : p ≤ p') :
    s.interpolated p ≤ s.interpolated p' := by
  have hFloor : p.floor ≤ p'.floor := Rat.floor_monotone h
  have hFrom : 0 ≤ p.floor := Rat.le_floor_iff.mpr hNonneg
  obtain hSame | hLess := eq_or_lt_of_le hFloor
  · have hNearer : p - p'.floor ≤ p' - p'.floor := sub_le_sub_right h _
    unfold interpolated
    rw [hSame]
    exact add_le_add_right (mul_le_mul_of_nonneg_right hNearer (s.rise_nonneg _)) _
  · -- the value between the two places is met by both
    have hPlaces : p.floor.toNat ≤ p'.floor.toNat - 1 := by omega
    calc s.interpolated p
        ≤ (s.valueAt p.floor.toNat).toInt := (s.interpolated_bounds p).2
      _ ≤ (s.valueAt (p'.floor.toNat - 1)).toInt := toInt_cast_le (valueAt_mono hPlaces)
      _ ≤ s.interpolated p' := (s.interpolated_bounds p').1

/-! ## Places -/

theorem ofSize_nonneg (s : Snapshot) : (0 : Rat) ≤ Scalar.ofSize (s.size + 1) :=
  Rat.natCast_nonneg

theorem place_nonneg (s : Snapshot) (q : Rat) : 0 ≤ s.place q :=
  mul_nonneg (unit_nonneg q) s.ofSize_nonneg

theorem place_mono (h : q ≤ q') : s.place q ≤ s.place q' :=
  mul_le_mul_of_nonneg_right (unit_mono h) s.ofSize_nonneg

/-! ## All quantiles -/

/-- What holds of the quantiles of a snapshot in exact fractions. Without values all of them are
zero, and so are the smallest and the largest value. -/
structure Bracketed (s : Snapshot) : Prop where
  empty : s.size = 0 → ∀ q : Rat, s.quantileIn q = 0
  below : ∀ q : Rat, q ≤ 0 → s.quantileIn q = s.min.toInt
  above : ∀ q : Rat, 1 ≤ q → s.quantileIn q = s.max.toInt
  between : ∀ q : Rat, (s.min.toInt : Rat) ≤ s.quantileIn q ∧ s.quantileIn q ≤ s.max.toInt
  /-- A quantile between two places stands between the two values there. -/
  neighbours : ∀ (q : Rat) (i : Nat) (h : i + 1 < s.values.length), (s.place q).floor = i + 1 →
    (s.values[i].toInt : Rat) ≤ s.quantileIn q ∧ s.quantileIn q ≤ s.values[i + 1].toInt
  mono : ∀ q q' : Rat, q ≤ q' → s.quantileIn q ≤ s.quantileIn q'

theorem min_toInt_of_empty (hNone : s.size = 0) : s.min.toInt = 0 := by
  rw [min, List.length_eq_zero_iff.mp hNone]
  rfl

theorem max_toInt_of_empty (hNone : s.size = 0) : s.max.toInt = 0 := by
  rw [max, List.length_eq_zero_iff.mp hNone]
  rfl

theorem quantileIn_eq_zero (hNone : s.size = 0) (q : Rat) : s.quantileIn q = 0 :=
  quantileIn_of_empty hNone q

theorem quantileIn_of_nonpos (h : q ≤ 0) : s.quantileIn q = s.min.toInt := by
  by_cases hNone : s.size = 0
  · rw [quantileIn_eq_zero hNone, min_toInt_of_empty hNone, Rat.intCast_zero]
  · have hPlace : s.place q = 0 := by rw [place, unit_of_nonpos h, zero_mul]
    have hBefore : Scalar.whole (s.place q) < 1 := by
      rw [hPlace]
      decide
    exact quantileIn_of_before hNone hBefore

theorem quantileIn_of_one_le (h : 1 ≤ q) : s.quantileIn q = s.max.toInt := by
  by_cases hNone : s.size = 0
  · rw [quantileIn_eq_zero hNone, max_toInt_of_empty hNone, Rat.intCast_zero]
  · have hPlace : s.place q = ((s.size + 1 : Nat) : Int) := by
      rw [place, unit_of_one_le h, one_mul, Rat.intCast_natCast]
      rfl
    have hBeyond : s.size ≤ Scalar.whole (s.place q) := by
      show s.size ≤ (s.place q).floor.toNat
      rw [hPlace, Rat.floor_intCast]
      omega
    exact quantileIn_of_beyond hNone hBeyond

theorem quantileIn_bounds (s : Snapshot) (q : Rat) :
    (s.min.toInt : Rat) ≤ s.quantileIn q ∧ s.quantileIn q ≤ s.max.toInt := by
  by_cases hNone : s.size = 0
  · rw [quantileIn_eq_zero hNone, min_toInt_of_empty hNone, max_toInt_of_empty hNone,
      Rat.intCast_zero]
    exact ⟨le_rfl, le_rfl⟩
  · rw [quantileIn_eq_interpolated hNone]
    obtain ⟨hLower, hUpper⟩ := s.interpolated_bounds (s.place q)
    exact ⟨(toInt_cast_le (s.min_le_valueAt _)).trans hLower,
      hUpper.trans (toInt_cast_le (s.valueAt_le_max _))⟩

theorem quantileIn_neighbours {q : Rat} (h : i + 1 < s.values.length)
    (hPlace : (s.place q).floor = i + 1) :
    (s.values[i].toInt : Rat) ≤ s.quantileIn q ∧ s.quantileIn q ≤ s.values[i + 1].toInt := by
  have hSome : s.size ≠ 0 := by
    unfold size
    omega
  have hIndex : (s.place q).floor.toNat = i + 1 := by omega
  have hBounds := s.interpolated_bounds (s.place q)
  rw [hIndex, Nat.add_sub_cancel, valueAt_of_lt h, valueAt_of_lt (Nat.lt_of_succ_lt h)] at hBounds
  rw [quantileIn_eq_interpolated hSome]
  exact hBounds

theorem quantileIn_mono (h : q ≤ q') : s.quantileIn q ≤ s.quantileIn q' := by
  by_cases hNone : s.size = 0
  · rw [quantileIn_eq_zero hNone, quantileIn_eq_zero hNone]
  · rw [quantileIn_eq_interpolated hNone, quantileIn_eq_interpolated hNone]
    exact interpolated_mono (s.place_nonneg q) (place_mono h)

theorem bracketed (s : Snapshot) : Bracketed s where
  empty := quantileIn_eq_zero
  below _ := quantileIn_of_nonpos
  above _ := quantileIn_of_one_le
  between := s.quantileIn_bounds
  neighbours _ _ := quantileIn_neighbours
  mono _ _ := quantileIn_mono

/-! ## The quantiles of a distribution -/

/-- The six quantiles that a distribution shows, in numbers of any type. -/
def percentiles {N : Type} [Scalar N] [OfScientific N] (s : Snapshot) : List N :=
  [0.5, 0.75, 0.95, 0.98, 0.99, 0.999].map s.quantileIn

/-- These are what a distribution shows beside the average and the spread. -/
theorem figures_distribution (s : Snapshot) :
    s.distribution.figures = s.mean :: s.deviation :: s.percentiles := rfl

/-- Quantiles of ascending shares ascend, from the smallest value to the largest. -/
theorem ascending_quantiles (s : Snapshot) {shares : List Rat} (h : shares.Pairwise (· ≤ ·)) :
    ((s.min.toInt : Rat) :: shares.map s.quantileIn ++ [(s.max.toInt : Rat)]).Pairwise (· ≤ ·) := by
  have hAscend : (shares.map s.quantileIn).Pairwise (· ≤ ·) :=
    List.pairwise_map.mpr (h.imp quantileIn_mono)
  have hEnds : (s.min.toInt : Rat) ≤ s.max.toInt :=
    (s.quantileIn_bounds 0).1.trans (s.quantileIn_bounds 0).2
  rw [List.cons_append, List.pairwise_cons, List.pairwise_append]
  refine ⟨fun x hx => ?_, hAscend, List.pairwise_singleton _ _, fun x hx y hy => ?_⟩
  · obtain hx | hx := List.mem_append.mp hx
    · obtain ⟨q, -, rfl⟩ := List.mem_map.mp hx
      exact (s.quantileIn_bounds q).1
    · rw [List.mem_singleton.mp hx]
      exact hEnds
  · obtain ⟨q, -, rfl⟩ := List.mem_map.mp hx
    rw [List.mem_singleton.mp hy]
    exact (s.quantileIn_bounds q).2

/-! ## Snapshots of values in any order -/

theorem ofList_eq_iff_perm {others : List Int64} :
    ofList others = ofList values ↔ others.Perm values := by
  refine ⟨fun h => ?_, ofList_eq_of_perm⟩
  have hSame := (perm_ofList others).symm
  rw [h] at hSame
  exact hSame.trans (perm_ofList values)

/-- The smallest and the largest value are values, and all values are between them. -/
theorem extremes_ofList {v : Int64} (hMem : v ∈ values) :
    (ofList values).min ∈ values ∧ (ofList values).max ∈ values ∧
      (ofList values).min ≤ v ∧ v ≤ (ofList values).max := by
  have hPerm := perm_ofList values
  obtain ⟨i, hIn, rfl⟩ := List.getElem_of_mem (hPerm.mem_iff.mpr hMem)
  have hSome : (ofList values).size ≠ 0 := Nat.ne_of_gt (Nat.zero_lt_of_lt hIn)
  refine ⟨hPerm.mem_iff.mp (List.mem_of_getElem? (getElem?_zero hSome)),
    hPerm.mem_iff.mp (List.mem_of_getElem? (getElem?_last hSome)), ?_, ?_⟩
  · rw [← valueAt_of_lt hIn]
    exact min_le_valueAt _ i
  · rw [← valueAt_of_lt hIn]
    exact valueAt_le_max _ i

/-- Of values in any order, a snapshot shows each as often as it was given, and nothing of their
order. To find a quantile never fails. A share that is no number, or not above zero, has the smallest
value for its quantile, and one above one has that of one, whatever is computed in floating point. In
exact fractions, quantiles go from the smallest value to the largest, between neighbours, and never
down; so do those of a distribution. -/
theorem quantiles_bracketed (values : List Int64) :
    (∀ others, ofList others = ofList values ↔ others.Perm values) ∧
    (∀ v ∈ values, (ofList values).min ∈ values ∧ (ofList values).max ∈ values ∧
      (ofList values).min ≤ v ∧ v ≤ (ofList values).max) ∧
    (∀ (N : Type) [Scalar N] (q : N),
      (ofList values).lookedUp? q = some ((ofList values).quantileIn q)) ∧
    (∀ x : Float, (x.isNaN = true ∨ x ≤ 0 →
        (ofList values).quantile x = (ofList values).min.toFloat) ∧
      (1 < x → (ofList values).quantile x = (ofList values).quantile 1)) ∧
    Bracketed (ofList values) ∧
    (((ofList values).min.toInt : Rat) :: (ofList values).percentiles ++
      [((ofList values).max.toInt : Rat)]).Pairwise (· ≤ ·) := by
  refine ⟨fun others => ofList_eq_iff_perm, fun v hMem => extremes_ofList hMem,
    fun N _ q => lookedUp?_eq _ q, fun x => ⟨quantile_of_le_zero, quantile_of_one_lt⟩,
    bracketed _, ascending_quantiles _ ?_⟩
  norm_num

end Snapshot

end Metering
