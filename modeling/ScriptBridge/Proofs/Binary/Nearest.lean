import Mathlib.Data.Rat.Cast.Order
import Mathlib.Order.WithBot
import ScriptBridge.Proofs.Binary.Rounding

/-!
# Rounding to the nearest number

Conversions give the number nearest to the exact value, of two that are as near the one with the
even code, and infinity from the middle above the greatest finite number on. What has this property
is in the order of the exact values and exact wherever it can be, whatever the algorithm.
-/
namespace ScriptBridge
set_option autoImplicit false

/-- The rationals with an infinity at either end. -/
abbrev Extended := WithBot (WithTop ℚ)

namespace Extended

variable {p q : ℚ}

def ofRat (q : ℚ) : Extended := ((q : WithTop ℚ) : WithBot (WithTop ℚ))

theorem ofRat_injective : Function.Injective ofRat := fun _ _ h =>
  WithTop.coe_injective (WithBot.coe_injective h)

@[simp] theorem ofRat_le_ofRat : ofRat p ≤ ofRat q ↔ p ≤ q := by
  rw [ofRat, ofRat, WithBot.coe_le_coe, WithTop.coe_le_coe]

@[simp] theorem not_ofRat_le_bot : ¬ ofRat q ≤ ⊥ := by simp [ofRat]

@[simp] theorem not_top_le_ofRat : ¬ ⊤ ≤ ofRat q := by
  intro h
  exact WithTop.coe_ne_top (WithBot.coe_injective (top_le_iff.mp h))

end Extended

/-- The middle between the greatest finite number and the power of two that follows it. -/
def Width.overflow (w : Width) : ℚ := 2 ^ (w.bias + 1) - 2 ^ (w.bias - w.precision)

namespace Binary

variable {w v : Width} {x y : Binary w} {p q : ℚ}

/-- A value to compare by. Of NaNs it says nothing. -/
def extended (x : Binary w) : Extended :=
  if x.isInfinite then if x.negative then ⊥ else ⊤ else .ofRat x.value

/-- The number is the rational rounded to nearest, ties to even. -/
structure Nearest (q : ℚ) (x : Binary w) : Prop where
  notNaN : x.isNaN = false
  infinite_iff : x.isInfinite = true ↔ w.overflow ≤ |q|
  negative_iff : x.isInfinite = true → (x.negative = true ↔ q < 0)
  nearest : x.isFinite = true → ∀ y : Binary w, y.isFinite = true → y.value ≠ x.value →
    |x.value - q| < |y.value - q| ∨ |x.value - q| = |y.value - q| ∧ x.magnitude.val % 2 = 0

def signOf (negative : Bool) : ℚ := if negative then -1 else 1

theorem value_eq (x : Binary w) :
    x.value = signOf x.negative * (w.units x.magnitude / w.one) := by
  rw [value_eq_units, units, signOf]
  cases x.negative with
  | false => simp
  | true => simp [neg_div]

theorem units_zero (w : Width) : w.units 0 = 0 := by cases w <;> rfl

theorem value_zero (w : Width) (negative : Bool) : (zero w negative).value = 0 := by
  have hMagnitude : (zero w negative).magnitude.val = 0 := rfl
  rw [value_eq, hMagnitude, units_zero, Nat.cast_zero, zero_div, mul_zero]

theorem overflow_pos (w : Width) : 0 < w.overflow :=
  sub_pos.mpr (pow_lt_pow_right₀ one_lt_two (by omega))

/-- The middle as units: halfway from the greatest finite magnitude to the next one. -/
theorem overflow_eq (w : Width) :
    (w.units (w.infinity - 1) + w.units w.infinity : ℚ) = 2 * (w.overflow * w.one) := by
  have hUnits : w.units (w.infinity - 1) + w.units w.infinity +
      2 * (2 ^ (w.bias - w.precision) * w.one) = 2 * (2 ^ (w.bias + 1) * w.one) := by
    cases w <;> decide +kernel
  have hCast : (_ : ℚ) = _ := congrArg Nat.cast hUnits
  push_cast at hCast
  rw [Width.overflow]
  linarith

theorem abs_signOf_mul (negative : Bool) (q : ℚ) : |signOf negative * q| = |q| := by
  cases negative <;> simp [signOf]

/-- The distance of a number from one of the same sign is that of their units. -/
theorem abs_value_sub_of_same {negative : Bool} (h : x.negative = negative) :
    |x.value - signOf negative * (q / w.one)| = |w.units x.magnitude - q| / w.one := by
  rw [value_eq, h, ← mul_sub, abs_signOf_mul, ← sub_div, abs_div, abs_of_pos (one_pos w)]

theorem abs_value_sub_of_ne {negative : Bool} (h : x.negative ≠ negative) (hq : 0 ≤ q) :
    |x.value - signOf negative * (q / w.one)| = (w.units x.magnitude + q) / w.one := by
  have hSign : signOf x.negative = -signOf negative := by
    cases hx : x.negative <;> cases negative <;> simp_all [signOf]
  have hSum : (0 : ℚ) ≤ (w.units x.magnitude + q) / w.one := by
    have := (one_pos w).le
    positivity
  rw [value_eq, hSign, neg_mul, ← neg_add', ← mul_add, abs_neg, abs_signOf_mul, ← add_div,
    abs_of_nonneg hSum]

/-- Zero is among the numbers, so none that is rounded to is farther away. -/
theorem nearest_codeOf_zero {num den : Nat} (hDen : 0 < den)
    (hFinite : w.codeOf num den < w.infinity) (hOther : 0 ≠ w.codeOf num den) :
    |(w.units (w.codeOf num den) - num / den : ℚ)| < num / den ∨
      |(w.units (w.codeOf num den) - num / den : ℚ)| = num / den ∧ w.codeOf num den % 2 = 0 := by
  have hRatio : (0 : ℚ) ≤ num / den := by positivity
  have hNearest := Width.nearest_codeOf hDen hFinite hOther
  rwa [units_zero, Nat.cast_zero, zero_sub, abs_neg, abs_of_nonneg hRatio] at hNearest

theorem abs_units_codeOf_sub_le {num den : Nat} (hDen : 0 < den)
    (hFinite : w.codeOf num den < w.infinity) :
    |(w.units (w.codeOf num den) - num / den : ℚ)| ≤ num / den := by
  by_cases hZero : 0 = w.codeOf num den
  · have hRatio : (0 : ℚ) ≤ num / den := by positivity
    rw [← hZero, units_zero, Nat.cast_zero, zero_sub, abs_neg, abs_of_nonneg hRatio]
  · rcases nearest_codeOf_zero hDen hFinite hZero with hLess | ⟨hSame, -⟩
    · exact hLess.le
    · exact hSame.le

theorem nearest_round (w : Width) (negative : Bool) {num den : Nat} (hDen : 0 < den) :
    Nearest (signOf negative * (num / den / w.one)) (round w negative num den) where
  notNaN := by
    have hCode : w.codeOf num den ≤ w.infinity := w.codeOf_le_infinity
    exact decide_eq_false (not_lt.mpr hCode)
  infinite_iff := by
    have hRatio : (0 : ℚ) ≤ num / den / w.one := by positivity
    have hInfinite : (round w negative num den).isInfinite = true ↔
        w.codeOf num den = w.infinity := beq_iff_eq
    rw [hInfinite, Width.codeOf_eq_infinity_iff hDen, overflow_eq, abs_signOf_mul,
      abs_of_nonneg hRatio, le_div_iff₀ (one_pos w), mul_le_mul_iff_right₀ two_pos]
  negative_iff := by
    intro hInfinite
    have hMiddle := (Width.codeOf_eq_infinity_iff hDen).mp (beq_iff_eq.mp hInfinite)
    have hPos : (0 : ℚ) < num / den / w.one := by
      have := mul_pos (overflow_pos w) (one_pos w)
      rw [overflow_eq] at hMiddle
      exact div_pos (by linarith) (one_pos w)
    change negative = true ↔ _
    cases negative with
    | false => simpa [signOf] using hPos.le
    | true => simpa [signOf] using hPos
  nearest := by
    intro hFinite y hy hValue
    have hCode : w.codeOf num den < w.infinity := of_decide_eq_true hFinite
    have hRatio : (0 : ℚ) ≤ num / den := by positivity
    have hOne := one_pos w
    have hSelf : |(round w negative num den).value - signOf negative * (num / den / w.one)| =
        |(w.units (w.codeOf num den) - num / den : ℚ)| / w.one := abs_value_sub_of_same rfl
    rw [hSelf]
    by_cases hSign : y.negative = negative
    · have hOther : y.magnitude.val ≠ w.codeOf num den := by
        intro hSame
        have hFields : y = round w negative num den := by
          obtain ⟨sign, magnitude⟩ := y
          obtain rfl := hSign
          exact congrArg _ (Fin.ext hSame)
        exact hValue (congrArg value hFields)
      rw [abs_value_sub_of_same hSign, div_lt_div_iff_of_pos_right hOne, div_left_inj' hOne.ne']
      exact Width.nearest_codeOf hDen hCode hOther
    · rw [abs_value_sub_of_ne hSign hRatio, div_lt_div_iff_of_pos_right hOne,
        div_left_inj' hOne.ne']
      by_cases hMagnitude : y.magnitude.val = 0
      · rw [hMagnitude, units_zero, Nat.cast_zero, zero_add]
        refine nearest_codeOf_zero hDen hCode fun hZero => hValue ?_
        rw [value_eq, value_eq, hMagnitude]
        change _ = _ * (w.units (w.codeOf num den) / w.one : ℚ)
        rw [← hZero, units_zero, Nat.cast_zero, zero_div, mul_zero, mul_zero]
      · left
        have hPos : (0 : ℚ) < w.units y.magnitude := by
          have hUnits := w.units_strictMono (Nat.pos_of_ne_zero hMagnitude)
          rw [units_zero] at hUnits
          exact_mod_cast hUnits
        have hAtMost := abs_units_codeOf_sub_le hDen hCode
        linarith

/-- Codes with the sign of the number; both zeros have the same. -/
def rank (x : Binary w) : ℤ := if x.negative then -x.magnitude else x.magnitude

def ofRank (k : ℤ) (h : k.natAbs < w.signBit) : Binary w := ⟨decide (k < 0), ⟨k.natAbs, h⟩⟩

theorem rank_ofRank {k : ℤ} (h : k.natAbs < w.signBit) : (ofRank k h : Binary w).rank = k := by
  rw [rank, ofRank]
  simp only [decide_eq_true_eq]
  split <;> omega

theorem value_lt_iff : x.value < y.value ↔ x.rank < y.rank := by
  have hOne := one_pos w
  have hUnits (m n : Nat) : (w.units m : ℚ) / w.one < w.units n / w.one ↔ m < n := by
    rw [div_lt_div_iff_of_pos_right hOne, Nat.cast_lt, w.units_strictMono.lt_iff_lt]
  have hNonneg (m : Nat) : (0 : ℚ) ≤ w.units m / w.one := by positivity
  have hPos (m : Nat) : (0 : ℚ) < w.units m / w.one ↔ 0 < m := by
    have hZero := hUnits 0 m
    rwa [units_zero, Nat.cast_zero, zero_div] at hZero
  rw [value_eq, value_eq, rank, rank, signOf, signOf]
  cases x.negative <;> cases y.negative
  · simp only [Bool.false_eq_true, if_false, one_mul, hUnits]
    omega
  · have := hNonneg x.magnitude
    have := hNonneg y.magnitude
    simp only [Bool.false_eq_true, if_false, if_true, one_mul, neg_one_mul]
    refine iff_of_false (by linarith) (by omega)
  · have hLeft := hPos x.magnitude
    have hRight := hPos y.magnitude
    have := hNonneg x.magnitude
    have := hNonneg y.magnitude
    simp only [Bool.false_eq_true, if_false, if_true, one_mul, neg_one_mul]
    constructor
    · intro hLess
      by_contra hNot
      have hxZero := mt hLeft.mp (by omega)
      have hyZero := mt hRight.mp (by omega)
      linarith
    · intro hLess
      rcases Nat.eq_zero_or_pos x.magnitude.val with hZero | hMagnitude
      · have := hRight.mpr (by omega)
        linarith
      · have := hLeft.mpr hMagnitude
        linarith
  · simp only [if_true, neg_one_mul, neg_lt_neg_iff, hUnits]
    omega

theorem rank_even (h : x.magnitude.val % 2 = 0) : x.rank % 2 = 0 := by
  rw [rank]
  split <;> omega

theorem exists_between (hx : x.isFinite = true) (hy : y.isFinite = true)
    (hxEven : x.magnitude.val % 2 = 0) (hyEven : y.magnitude.val % 2 = 0) (h : x.value < y.value) :
    ∃ z : Binary w, z.isFinite = true ∧ x.value < z.value ∧ z.value < y.value := by
  have hxCode : x.magnitude.val < w.infinity := of_decide_eq_true hx
  have hyCode : y.magnitude.val < w.infinity := of_decide_eq_true hy
  have hxRank : -(w.infinity : ℤ) < x.rank := by
    rw [rank]
    split <;> omega
  have hyRank : y.rank < w.infinity := by
    rw [rank]
    split <;> omega
  have hOrder := value_lt_iff.mp h
  have hxParity := rank_even hxEven
  have hyParity := rank_even hyEven
  have hCode : (x.rank + 1).natAbs < w.infinity := by omega
  refine ⟨ofRank (x.rank + 1) (hCode.trans w.infinity_lt), decide_eq_true hCode,
    value_lt_iff.mpr ?_, value_lt_iff.mpr ?_⟩
  · rw [rank_ofRank]
    omega
  · rw [rank_ofRank]
    omega

theorem not_infinite_of_finite (h : x.isFinite = true) : x.isInfinite = false :=
  beq_false_of_ne (of_decide_eq_true h).ne

theorem not_nan_of_finite (h : x.isFinite = true) : x.isNaN = false :=
  decide_eq_false (not_lt.mpr (of_decide_eq_true h).le)

theorem finite_or_infinite (h : x.isNaN = false) : x.isFinite = true ∨ x.isInfinite = true := by
  rcases Nat.lt_or_eq_of_le (not_lt.mp (of_decide_eq_false h)) with hLess | hSame
  · exact .inl (decide_eq_true hLess)
  · exact .inr (beq_iff_eq.mpr hSame)

theorem extended_of_finite (h : x.isFinite = true) : x.extended = .ofRat x.value := by
  rw [extended, if_neg (by simp [not_infinite_of_finite h])]

theorem extended_of_infinite (h : x.isInfinite = true) :
    x.extended = if x.negative then ⊥ else ⊤ := by
  rw [extended, if_pos h]

theorem abs_value (x : Binary w) : |x.value| = w.units x.magnitude / w.one := by
  have hOne := (one_pos w).le
  rw [value_eq, abs_signOf_mul, abs_of_nonneg (by positivity)]

theorem abs_value_lt_overflow (h : x.isFinite = true) : |x.value| < w.overflow := by
  have hCode : x.magnitude.val < w.infinity := of_decide_eq_true h
  have hUnits : (w.units x.magnitude : ℚ) ≤ w.units (w.infinity - 1) := by
    exact_mod_cast w.units_strictMono.monotone (Nat.le_sub_one_of_lt hCode)
  have hNext : (w.units (w.infinity - 1) : ℚ) < w.units w.infinity := by
    exact_mod_cast w.units_strictMono (Nat.sub_one_lt_of_lt hCode)
  have hMiddle := overflow_eq w
  rw [abs_value, div_lt_iff₀ (one_pos w)]
  linarith

namespace Nearest

theorem abs_lt_overflow (h : Nearest q x) (hFinite : x.isFinite = true) : |q| < w.overflow := by
  by_contra hBeyond
  have hInfinite := h.infinite_iff.mpr (not_lt.mp hBeyond)
  rw [not_infinite_of_finite hFinite] at hInfinite
  cases hInfinite

theorem abs_sub_le (h : Nearest q x) (hx : x.isFinite = true) (hy : y.isFinite = true) :
    |x.value - q| ≤ |y.value - q| := by
  by_cases hSame : y.value = x.value
  · rw [hSame]
  · rcases h.nearest hx y hy hSame with hLess | ⟨hTie, -⟩
    · exact hLess.le
    · exact hTie.le

/-- A finite number is the one nearest to its value. -/
theorem of_finite (h : x.isFinite = true) : Nearest x.value x where
  notNaN := not_nan_of_finite h
  infinite_iff := by
    rw [not_infinite_of_finite h]
    exact iff_of_false Bool.false_ne_true (not_le.mpr (abs_value_lt_overflow h))
  negative_iff := by
    rw [not_infinite_of_finite h]
    exact nofun
  nearest _ y _ hOther := by
    left
    rw [sub_self, abs_zero]
    exact abs_pos.mpr (sub_ne_zero.mpr hOther)

/-- Rounding keeps the order. Two different numbers can only be nearest to values in the wrong
order if both are nearest to their middle. Then both are even, and a number between them is nearer. -/
theorem mono_of_finite (hx : Nearest p x) (hy : Nearest q y) (hxFinite : x.isFinite = true)
    (hyFinite : y.isFinite = true) (h : p ≤ q) : x.value ≤ y.value := by
  by_contra hReversed
  have hReversed : y.value < x.value := not_le.mp hReversed
  have hpSide : x.value + y.value ≤ 2 * p := by
    by_contra hBelow
    have hNearer : |y.value - p| < |x.value - p| :=
      lt_of_lt_of_le (abs_lt.mpr ⟨by linarith, by linarith⟩) (le_abs_self _)
    exact absurd (hx.abs_sub_le hxFinite hyFinite) (not_le.mpr hNearer)
  have hqSide : 2 * q ≤ x.value + y.value := by
    by_contra hAbove
    have hNearer : |x.value - q| < |y.value - q| :=
      lt_of_lt_of_le (abs_lt.mpr ⟨by linarith, by linarith⟩) (neg_le_abs _)
    exact absurd (hy.abs_sub_le hyFinite hxFinite) (not_le.mpr hNearer)
  obtain rfl : p = q := by linarith
  have hTie : |x.value - p| = |y.value - p| := by
    rw [abs_of_nonneg (by linarith), abs_of_nonpos (by linarith)]
    linarith
  have hxEven := ((hx.nearest hxFinite y hyFinite hReversed.ne).resolve_left hTie.not_lt).2
  have hyEven := ((hy.nearest hyFinite x hxFinite hReversed.ne').resolve_left hTie.not_gt).2
  obtain ⟨z, hz, hLow, hHigh⟩ := exists_between hyFinite hxFinite hyEven hxEven hReversed
  have hNearer : |z.value - p| < |x.value - p| :=
    lt_of_lt_of_le (abs_lt.mpr ⟨by linarith, by linarith⟩) (le_abs_self _)
  exact absurd (hx.abs_sub_le hxFinite hz) (not_le.mpr hNearer)

theorem mono (hx : Nearest p x) (hy : Nearest q y) (h : p ≤ q) : x.extended ≤ y.extended := by
  rcases finite_or_infinite hx.notNaN with hxFinite | hxInfinite
  · rcases finite_or_infinite hy.notNaN with hyFinite | hyInfinite
    · rw [extended_of_finite hxFinite, extended_of_finite hyFinite, Extended.ofRat_le_ofRat]
      exact mono_of_finite hx hy hxFinite hyFinite h
    · rw [extended_of_infinite hyInfinite]
      split
      · rename_i hSign
        have hBound := abs_lt.mp (hx.abs_lt_overflow hxFinite)
        have hBeyond := hy.infinite_iff.mp hyInfinite
        rw [abs_of_neg ((hy.negative_iff hyInfinite).mp hSign)] at hBeyond
        linarith
      · exact le_top
  · rw [extended_of_infinite hxInfinite]
    split
    · exact bot_le
    · rename_i hSign
      have hNonneg : 0 ≤ p := not_lt.mp (mt (hx.negative_iff hxInfinite).mpr hSign)
      have hBeyond := hx.infinite_iff.mp hxInfinite
      rw [abs_of_nonneg hNonneg] at hBeyond
      have hyInfinite := hy.infinite_iff.mpr (hBeyond.trans (h.trans (le_abs_self q)))
      have hySign := mt (hy.negative_iff hyInfinite).mp (by linarith)
      rw [extended_of_infinite hyInfinite, if_neg hySign]

theorem extended_le (h : Nearest q x) (hy : y.isNaN = false) (hq : .ofRat q ≤ y.extended) :
    x.extended ≤ y.extended := by
  rcases finite_or_infinite hy with hFinite | hInfinite
  · rw [extended_of_finite hFinite, Extended.ofRat_le_ofRat] at hq
    exact h.mono (of_finite hFinite) hq
  · rw [extended_of_infinite hInfinite] at hq ⊢
    split
    · rename_i hSign
      rw [if_pos hSign] at hq
      exact absurd hq Extended.not_ofRat_le_bot
    · exact le_top

theorem le_extended (h : Nearest q x) (hy : y.isNaN = false) (hq : y.extended ≤ .ofRat q) :
    y.extended ≤ x.extended := by
  rcases finite_or_infinite hy with hFinite | hInfinite
  · rw [extended_of_finite hFinite, Extended.ofRat_le_ofRat] at hq
    exact (of_finite hFinite).mono h hq
  · rw [extended_of_infinite hInfinite] at hq ⊢
    split
    · exact bot_le
    · rename_i hSign
      rw [if_neg hSign] at hq
      exact absurd hq Extended.not_top_le_ofRat

end Nearest

end Binary

end ScriptBridge
