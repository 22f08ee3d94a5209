import Mathlib.Algebra.Order.Field.Rat
import Mathlib.Tactic.Linarith
import Metering.Scalar

/-!
# Metering — shares

A share is brought between zero and one before anything is computed with it. In exact fractions this
keeps the order of shares. In floating point there is more to be brought in: infinities, zeros of
both signs, and what is no number at all.

* `unit_of_nonpos`, `unit_of_one_le`, `unit_mono` — exact shares;
* `floatUnit_of_one_lt`, `unpack_floatUnit` — shares in floating point;
* `whole_mul_of_unpack_zero` — zero, of either sign, has no whole multiple, of whatever number.
-/

namespace Metering

/-! ## Exact fractions -/

section Fractions

variable {q q' : Rat}

theorem unit_of_nonpos (h : q ≤ 0) : Scalar.unit q = (0 : Rat) := by
  show (if q < 0 then (0 : Rat) else if 1 < q then 1 else q) = 0
  split
  · rfl
  · rw [if_neg (by linarith)]
    linarith

theorem unit_of_one_le (h : 1 ≤ q) : Scalar.unit q = (1 : Rat) := by
  show (if q < 0 then (0 : Rat) else if 1 < q then 1 else q) = 1
  rw [if_neg (by linarith)]
  split
  · rfl
  · linarith

theorem unit_nonneg (q : Rat) : 0 ≤ Scalar.unit q := by
  show 0 ≤ (if q < 0 then (0 : Rat) else if 1 < q then 1 else q)
  split_ifs <;> linarith

theorem unit_mono (h : q ≤ q') : Scalar.unit q ≤ Scalar.unit q' := by
  show (if q < 0 then (0 : Rat) else if 1 < q then 1 else q) ≤
    (if q' < 0 then (0 : Rat) else if 1 < q' then 1 else q')
  split_ifs <;> linarith

end Fractions

/-! ## Floating point -/

section Doubles

open Float.Model

variable {x y : Float} {sign : UnpackedFloat.Sign}

theorem unpack_zero : (0 : Float).toModel.unpack = .zero .positive := by rfl

theorem unpack_one :
    (1 : Float).toModel.unpack = .finite .positive (2 ^ 52) (-52) (by decide) := by rfl

theorem float_lt_iff : x < y ↔ x.toModel.unpack.lt y.toModel.unpack = true := decide_eq_true_iff

theorem float_le_iff : x ≤ y ↔ x.toModel.unpack.le y.toModel.unpack = true := decide_eq_true_iff

/-- What is above one is a number, and not below zero. -/
theorem number_of_one_lt (h : 1 < x) : x.isNaN = false ∧ ¬ x < 0 := by
  rw [float_lt_iff, unpack_one] at h
  rw [float_lt_iff, unpack_zero]
  show x.toModel.unpack.isNaN = false ∧ _
  generalize x.toModel.unpack = u at *
  rcases u with (_ | _) | _ | _ | ⟨_ | _, m, e, hm⟩
  case infinity.negative | notANumber | zero | finite.negative => cases h
  case infinity.positive | finite.positive => exact ⟨rfl, nofun⟩

/-- What is neither above zero nor below is zero, of either sign. -/
theorem zero_of_le_of_not_lt (hLe : x ≤ 0) (hNotLt : ¬ x < 0) :
    ∃ sign, x.toModel.unpack = .zero sign := by
  rw [float_le_iff, unpack_zero] at hLe
  rw [float_lt_iff, unpack_zero] at hNotLt
  generalize x.toModel.unpack = u at *
  rcases u with (_ | _) | _ | sign | ⟨_ | _, m, e, hm⟩
  case zero => exact ⟨sign, rfl⟩
  case infinity.negative | finite.negative => exact absurd rfl hNotLt
  case infinity.positive | notANumber | finite.positive => cases hLe

/-- What is above one, infinite or not, counts as one. -/
theorem floatUnit_of_one_lt (h : 1 < x) : floatUnit x = 1 := by
  obtain ⟨hNumber, hNotNeg⟩ := number_of_one_lt h
  rw [floatUnit, hNumber, if_neg Bool.false_ne_true, if_neg hNotNeg, if_pos h]

theorem floatUnit_one : floatUnit 1 = 1 := by decide +kernel

/-- What is no number counts as zero, and so does all that is not above zero. -/
theorem unpack_floatUnit (h : x.isNaN = true ∨ x ≤ 0) :
    ∃ sign, (floatUnit x).toModel.unpack = .zero sign := by
  by_cases hNaN : x.isNaN = true
  · rw [floatUnit, if_pos hNaN]
    exact ⟨.positive, unpack_zero⟩
  · by_cases hNeg : x < 0
    · rw [floatUnit, if_neg hNaN, if_pos hNeg]
      exact ⟨.positive, unpack_zero⟩
    · obtain ⟨sign, hZero⟩ := zero_of_le_of_not_lt (h.resolve_left hNaN) hNeg
      have hNotOver : ¬ 1 < x := by
        rw [float_lt_iff, unpack_one, hZero]
        nofun
      rw [floatUnit, if_neg hNaN, if_neg hNeg, if_neg hNotOver]
      exact ⟨sign, hZero⟩

/-- A multiple of zero is zero again, or no number: that of an infinity. -/
theorem zero_mul_cases (sign : UnpackedFloat.Sign) (u : UnpackedFloat) :
    UnpackedFloat.mul .binary64 (.zero sign) u = .notANumber ∨
      ∃ s, UnpackedFloat.mul .binary64 (.zero sign) u = .zero s := by
  cases u with
  | infinity s => exact .inl rfl
  | notANumber => exact .inl rfl
  | zero s => exact .inr ⟨sign * s, rfl⟩
  | finite s m e hm => exact .inr ⟨sign * s, rfl⟩

theorem whole_mul_of_unpack_zero (h : x.toModel.unpack = .zero sign) (y : Float) :
    Scalar.whole (x * y) = 0 := by
  have hWhole : Scalar.whole (x * y) = (Float.Model.pack
      (UnpackedFloat.mul .binary64 x.toModel.unpack y.toModel.unpack)).unpack.toUInt64.toNat := rfl
  rw [hWhole, h]
  obtain hNaN | ⟨s, hZero⟩ := zero_mul_cases sign y.toModel.unpack
  · rw [hNaN]
    rfl
  · rw [hZero]
    cases s <;> rfl

end Doubles

end Metering
