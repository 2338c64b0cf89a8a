import Mathlib.Algebra.Order.Field.Power
import Mathlib.Data.Rat.Floor
import Mathlib.Tactic.FieldSimp
import Mathlib.Tactic.NormNum
import Mathlib.Tactic.Ring
import ScriptBridge.Binary.Arithmetic

/-!
# Exact values of binary numbers

The value of a finite number as its fields have it: a sign, an exponent and a fraction, with a
leading one unless the exponent field is zero. The units that arithmetic counts in give the same
value, so what is computed with units can be told of values.
-/
namespace ScriptBridge
set_option autoImplicit false

/-- The exponent field of the magnitudes from one up to two. -/
def Width.bias (w : Width) : Nat := Nat.pow 2 (w.exponentBits - 1) - 1

/-- The whole part of a number, rounded toward zero. -/
def towardZero (q : ℚ) : Int := if 0 ≤ q then ⌊q⌋ else ⌈q⌉

theorem towardZero_intCast (n : Int) : towardZero n = n := by
  rw [towardZero, Int.floor_intCast, Int.ceil_intCast, ite_self]

theorem towardZero_eq_zero {q : ℚ} (h : -1 < q) (h' : q < 0) : towardZero q = 0 := by
  rw [towardZero, if_neg (not_le.mpr h'), Int.ceil_eq_zero_iff]
  exact ⟨h, h'.le⟩

namespace Binary

variable {w : Width} {x : Binary w} {n : Int}

def exponentField (x : Binary w) : Nat := x.magnitude.val / w.step

def fraction (x : Binary w) : Nat := x.magnitude.val % w.step

/-- Of the infinities and NaNs it says nothing. -/
def value (x : Binary w) : ℚ :=
  (if x.negative then -1 else 1) *
    if x.exponentField = 0 then (x.fraction / w.step : ℚ) * 2 ^ (1 - w.bias : ℤ)
    else (1 + x.fraction / w.step : ℚ) * 2 ^ (x.exponentField - w.bias : ℤ)

theorem one_pos (w : Width) : (0 : ℚ) < w.one := by
  have hPow : w.one = 2 ^ w.unitExponent := rfl
  rw [hPow]
  positivity

theorem step_pos (w : Width) : (0 : ℚ) < w.step := by
  have hPow : w.step = 2 ^ (w.precision - 1) := rfl
  rw [hPow]
  positivity

/-- The least normal magnitude is `2 ^ (1 - bias)`, and it is `step` units. -/
theorem one_eq (w : Width) : (w.one : ℚ) = w.step * 2 ^ (w.bias - 1 : ℤ) := by
  have hExponent : w.unitExponent = (w.precision - 1) + (w.bias - 1) := by cases w <;> rfl
  have hBias : 1 ≤ w.bias := by cases w <;> decide
  have hOne : w.one = 2 ^ w.unitExponent := rfl
  have hStep : w.step = 2 ^ (w.precision - 1) := rfl
  have hShift : (w.bias - 1 : ℤ) = (w.bias - 1 : ℕ) := by omega
  rw [hOne, hStep, hShift, zpow_natCast, hExponent, pow_add]
  push_cast
  rfl

theorem units_of_field_zero (h : x.exponentField = 0) : w.units x.magnitude = x.fraction := by
  have hStep : 0 < w.step := Nat.two_pow_pos _
  have hLess : x.magnitude < w.step := (Nat.div_eq_zero_iff_lt hStep).mp h
  rw [Width.units, if_pos hLess, fraction, Nat.mod_eq_of_lt hLess]

theorem units_of_field_pos (h : x.exponentField ≠ 0) :
    (w.units x.magnitude : ℚ) = (w.step + x.fraction) * 2 ^ (x.exponentField - 1 : ℤ) := by
  have hStep : 0 < w.step := Nat.two_pow_pos _
  have hNot : ¬ x.magnitude < w.step := fun hLess => h ((Nat.div_eq_zero_iff_lt hStep).mpr hLess)
  have hShift : (x.exponentField - 1 : ℤ) = (x.exponentField - 1 : ℕ) := by omega
  have hUnits : w.units x.magnitude = (w.step + x.fraction) * 2 ^ (x.exponentField - 1) := by
    rw [Width.units, if_neg hNot]
    rfl
  rw [hUnits, hShift, zpow_natCast]
  push_cast
  rfl

theorem value_eq_units (x : Binary w) : x.value = x.units / w.one := by
  have hMagnitude : (if x.exponentField = 0 then (x.fraction / w.step : ℚ) * 2 ^ (1 - w.bias : ℤ)
      else (1 + x.fraction / w.step : ℚ) * 2 ^ (x.exponentField - w.bias : ℤ)) =
      (w.units x.magnitude : ℚ) / w.one := by
    have hStep := (step_pos w).ne'
    have hTwo : (2 : ℚ) ≠ 0 := two_ne_zero
    split
    · rename_i hField
      have hBias : (1 - w.bias : ℤ) = -(w.bias - 1) := by ring
      rw [units_of_field_zero hField, one_eq, hBias, zpow_neg]
      field_simp
    · rename_i hField
      have hBias : (x.exponentField - w.bias : ℤ) = (x.exponentField - 1) - (w.bias - 1) := by ring
      rw [units_of_field_pos hField, one_eq, hBias, zpow_sub₀ hTwo]
      field_simp
  rw [value, hMagnitude, units]
  cases x.negative with
  | false => simp
  | true => simp [neg_div]

theorem toInt?_eq_some_iff : x.toInt? = some n ↔ x.isFinite = true ∧ x.value = n := by
  have hOne : (w.one : ℤ) ≠ 0 := by exact_mod_cast (one_pos w).ne'
  have hValue : x.value = n ↔ x.units = n * w.one := by
    rw [value_eq_units, div_eq_iff (one_pos w).ne']
    exact_mod_cast Iff.rfl
  rw [toInt?, hValue]
  constructor
  · intro h
    split at h
    · rename_i hWhole
      simp only [Bool.and_eq_true, beq_iff_eq] at hWhole
      refine ⟨hWhole.1, ?_⟩
      rw [← Option.some.inj h, Int.ediv_mul_cancel (Int.dvd_of_emod_eq_zero hWhole.2)]
    · cases h
  · rintro ⟨hFinite, hUnits⟩
    have hMod : x.units % w.one = 0 := by rw [hUnits, Int.mul_emod_left]
    rw [if_pos (by simp [hFinite, hMod]), hUnits, Int.mul_ediv_cancel n hOne]

theorem towardZero_value (x : Binary w) : towardZero x.value = x.units.tdiv w.one := by
  have hOne := one_pos w
  rw [towardZero, value_eq_units]
  by_cases hSign : 0 ≤ x.units
  · have hValue : (0 : ℚ) ≤ x.units / w.one := div_nonneg (by exact_mod_cast hSign) hOne.le
    rw [if_pos hValue, Rat.floor_intCast_div_natCast, Int.tdiv_eq_ediv_of_nonneg hSign]
  · have hNeg : (x.units : ℚ) < 0 := by exact_mod_cast not_le.mp hSign
    have hValue : ¬ (0 : ℚ) ≤ x.units / w.one := not_le.mpr (div_neg_of_neg_of_pos hNeg hOne)
    have hFlip : x.units.tdiv w.one = -((-x.units).tdiv w.one) := by rw [Int.neg_tdiv, neg_neg]
    rw [if_neg hValue, Rat.ceil_intCast_div_natCast, hFlip,
      Int.tdiv_eq_ediv_of_nonneg (by omega)]

theorem truncate?_eq_some_iff :
    x.truncate? = some n ↔ x.isFinite = true ∧ towardZero x.value = n := by
  rw [truncate?, towardZero_value]
  split
  · rename_i hFinite
    simp [hFinite]
  · rename_i hNot
    simp [hNot]

end Binary

end ScriptBridge
