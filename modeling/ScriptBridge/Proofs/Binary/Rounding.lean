import Mathlib.Tactic.Linarith
import ScriptBridge.Proofs.Binary.Value

/-!
# Where rounding cuts

The units of a magnitude grow with its code, so a code stands for an interval around its units, which
ends halfway to the units of its neighbours. `Width.codeOf` gives the code whose interval holds the
ratio, and at an end that two intervals share the even one: this is `codeOf_le_iff`, of which what
else is said of rounding are consequences.
-/
namespace ScriptBridge
set_option autoImplicit false

/-- A ratio is a whole number and a fraction, and the fraction says where it is rounded to. -/
theorem roundHalfEven_cases (num : Nat) {den : Nat} (hDen : 0 < den) :
    ∃ (q : Nat) (f : ℚ), (num / den : ℚ) = q + f ∧ 0 ≤ f ∧ f < 1 ∧
      ((2 * f < 1 ∧ roundHalfEven num den = q) ∨
        (2 * f = 1 ∧ roundHalfEven num den = q + q % 2) ∨
        1 < 2 * f ∧ roundHalfEven num den = q + 1) := by
  have hDenQ : (0 : ℚ) < den := by exact_mod_cast hDen
  have hSplit : (num / den : ℚ) = (num / den : ℕ) + (num % den : ℕ) / den := by
    have hParts : (num : ℚ) = den * (num / den : ℕ) + (num % den : ℕ) := by
      exact_mod_cast (Nat.div_add_mod num den).symm
    rw [div_eq_iff hDenQ.ne', add_mul, div_mul_cancel₀ _ hDenQ.ne', mul_comm]
    exact hParts
  have hMod : num % den < den := Nat.mod_lt _ hDen
  refine ⟨num / den, (num % den : ℕ) / den, hSplit, by positivity, ?_, ?_⟩
  · rw [div_lt_one hDenQ]
    exact_mod_cast hMod
  · rw [mul_div_assoc', div_lt_one hDenQ, one_lt_div hDenQ, div_eq_one_iff_eq hDenQ.ne']
    simp only [roundHalfEven]
    rcases lt_trichotomy (2 * (num % den)) den with hLess | hSame | hMore
    · exact .inl ⟨by exact_mod_cast hLess, if_pos hLess⟩
    · refine .inr (.inl ⟨by exact_mod_cast hSame, ?_⟩)
      rw [if_neg hSame.not_lt, if_neg hSame.not_gt]
    · refine .inr (.inr ⟨by exact_mod_cast hMore, ?_⟩)
      rw [if_neg hMore.not_gt, if_pos hMore]

theorem roundHalfEven_le_iff {num den n : Nat} (hDen : 0 < den) :
    roundHalfEven num den ≤ n ↔
      2 * (num / den : ℚ) < 2 * n + 1 ∨ 2 * (num / den : ℚ) = 2 * n + 1 ∧ n % 2 = 0 := by
  obtain ⟨q, f, hSplit, hLow, hHigh, hCases⟩ := roundHalfEven_cases num hDen
  rw [hSplit]
  rcases lt_trichotomy n q with hBelow | rfl | hAbove
  · have hCast : (n : ℚ) + 1 ≤ q := by exact_mod_cast hBelow
    have hNot : ¬ (2 * (q + f) < 2 * n + 1 ∨ 2 * (q + f) = 2 * n + 1 ∧ n % 2 = 0) := by
      rintro (hLess | ⟨hSame, -⟩) <;> linarith
    refine iff_of_false ?_ hNot
    rcases hCases with ⟨-, hRound⟩ | ⟨-, hRound⟩ | ⟨-, hRound⟩ <;> omega
  · rcases hCases with ⟨hHalf, hRound⟩ | ⟨hHalf, hRound⟩ | ⟨hHalf, hRound⟩
    · exact iff_of_true hRound.le (.inl (by linarith))
    · have hTie : 2 * ((n : ℚ) + f) = 2 * n + 1 := by linarith
      simp only [hRound, hTie, lt_irrefl, false_or, true_and]
      omega
    · refine iff_of_false (by omega) ?_
      rintro (hLess | ⟨hSame, -⟩) <;> linarith
  · have hCast : (q : ℚ) + 1 ≤ n := by exact_mod_cast hAbove
    refine iff_of_true ?_ (.inl (by linarith))
    rcases hCases with ⟨-, hRound⟩ | ⟨-, hRound⟩ | ⟨-, hRound⟩ <;> omega

namespace Width

variable {w : Width} {num den c d s n : Nat}

theorem step_eq_two_mul (w : Width) : w.step = 2 * (w.step / 2) := by cases w <;> rfl

theorem step_pos' (w : Width) : 0 < w.step := Nat.two_pow_pos _

/-- Every code is that of a significand `n` with the exponent `s`, in one way. -/
theorem exists_significand (w : Width) (c : Nat) :
    ∃ s n, c = s * w.step + n ∧ (s = 0 ∨ w.step ≤ n) ∧ n < 2 * w.step := by
  have hStep := w.step_pos'
  by_cases hLow : c < w.step
  · exact ⟨0, c, by omega, .inl rfl, by omega⟩
  · refine ⟨c / w.step - 1, w.step + c % w.step, ?_, .inr (Nat.le_add_right _ _), ?_⟩
    · have hOne : 1 ≤ c / w.step := (Nat.one_le_div_iff hStep).mpr (not_lt.mp hLow)
      have hParts := Nat.div_add_mod c w.step
      rw [Nat.sub_mul, one_mul, Nat.mul_comm]
      have hLess : w.step ≤ w.step * (c / w.step) := Nat.le_mul_of_pos_right _ hOne
      omega
    · have := Nat.mod_lt c hStep
      omega

/-- The significand may also be the first one of the next exponent. -/
theorem units_significand (hLow : s = 0 ∨ w.step ≤ n) (hHigh : n ≤ 2 * w.step) :
    w.units (s * w.step + n) = n * 2 ^ s := by
  have hStep := w.step_pos'
  by_cases hSmall : n < w.step
  · obtain rfl : s = 0 := hLow.resolve_right (not_le.mpr hSmall)
    rw [Nat.zero_mul, Nat.zero_add, units, if_pos hSmall, pow_zero, Nat.mul_one]
  · have hCode : w.step ≤ s * w.step + n := Nat.le_add_left_of_le (not_lt.mp hSmall)
    rw [units, if_neg (not_lt.mpr hCode)]
    rcases Nat.lt_or_eq_of_le hHigh with hLess | rfl
    · have hSplit : s * w.step + n = (n - w.step) + w.step * (s + 1) := by
        rw [Nat.mul_succ, Nat.mul_comm]
        omega
      rw [hSplit, Nat.add_mul_mod_self_left, Nat.add_mul_div_left _ _ hStep,
        Nat.mod_eq_of_lt (by omega), Nat.div_eq_of_lt (by omega)]
      have hExponent : 0 + (s + 1) - 1 = s := by omega
      have hFraction : w.step + (n - w.step) = n := by omega
      rw [hExponent, hFraction]
      rfl
    · have hSplit : s * w.step + 2 * w.step = w.step * (s + 2) := by ring
      rw [hSplit, Nat.mul_mod_right, Nat.mul_div_cancel_left _ hStep]
      have hExponent : s + 2 - 1 = s + 1 := by omega
      rw [hExponent, Nat.add_zero]
      change w.step * 2 ^ (s + 1) = _
      ring

theorem units_strictMono (w : Width) : StrictMono w.units := by
  refine strictMono_nat_of_lt_succ fun c => ?_
  obtain ⟨s, n, rfl, hLow, hHigh⟩ := w.exists_significand c
  rw [Nat.add_assoc, units_significand hLow hHigh.le,
    units_significand (hLow.imp_right fun h => by omega) hHigh]
  exact Nat.mul_lt_mul_of_pos_right (Nat.lt_succ_self n) (Nat.two_pow_pos s)

/-- Significands that are too small for their exponent are those of a smaller one. -/
theorem exists_units (hHigh : n ≤ 2 * w.step) (s : Nat) : ∃ c, w.units c = n * 2 ^ s := by
  induction s generalizing n with
  | zero => exact ⟨0 * w.step + n, units_significand (.inl rfl) hHigh⟩
  | succ s ih =>
    by_cases hLow : w.step ≤ n
    · exact ⟨(s + 1) * w.step + n, units_significand (.inr hLow) hHigh⟩
    · obtain ⟨c, hUnits⟩ := ih (n := 2 * n) (by omega)
      refine ⟨c, ?_⟩
      rw [hUnits]
      ring

/-- The ratio `q` of units is rounded to the significand `n` of the exponent `s`. -/
structure RoundsTo (w : Width) (q : ℚ) (s n : Nat) : Prop where
  low : s = 0 ∨ (w.step * 2 ^ s : ℚ) ≤ q
  high : q < 2 * w.step * 2 ^ s
  le_iff : ∀ m, n ≤ m ↔ 2 * q < (2 * m + 1) * 2 ^ s ∨ 2 * q = (2 * m + 1) * 2 ^ s ∧ m % 2 = 0

namespace RoundsTo

variable {q : ℚ}

theorem step_le (h : w.RoundsTo q s n) : s = 0 ∨ w.step ≤ n := by
  refine h.low.imp_right fun hLow => ?_
  have hPow : (0 : ℚ) < 2 ^ s := by positivity
  have hStep := w.step_pos'
  by_contra hLess
  have hCut := (h.le_iff (w.step - 1)).mp (by omega)
  rw [Nat.cast_sub hStep, Nat.cast_one] at hCut
  rcases hCut with hCut | ⟨hCut, -⟩ <;> nlinarith

theorem le_two_mul_step (h : w.RoundsTo q s n) : n ≤ 2 * w.step := by
  have hPow : (0 : ℚ) < 2 ^ s := by positivity
  have hHigh := h.high
  refine (h.le_iff _).mpr (.inl ?_)
  push_cast
  nlinarith

end RoundsTo

theorem exists_roundsTo (w : Width) (num : Nat) {den : Nat} (hDen : 0 < den) :
    ∃ s n, w.RoundsTo (num / den) s n ∧ w.codeOf num den = min w.infinity (s * w.step + n) := by
  have hDenQ : (0 : ℚ) < den := by exact_mod_cast hDen
  have hPrecision : 2 ^ w.precision = 2 * w.step := by cases w <;> rfl
  have hLess : 2 ^ (w.precision - 1) = w.step := rfl
  have hBitsPos : 1 ≤ w.precision := by cases w <;> decide
  refine ⟨(num / den).log2 + 1 - w.precision, _, ⟨?low, ?high, fun m => ?le_iff⟩, rfl⟩
  all_goals generalize hs : (num / den).log2 + 1 - w.precision = s
  case low =>
    rcases Nat.eq_zero_or_pos s with hZero | hPos
    · exact .inl hZero
    · right
      have hNotZero : num / den ≠ 0 := by
        intro hZero
        rw [hZero, Nat.log2_zero] at hs
        omega
      have hLog : (num / den).log2 = w.precision - 1 + s := by omega
      have hBits := Nat.log2_self_le hNotZero
      rw [hLog, pow_add, hLess] at hBits
      rw [le_div_iff₀ hDenQ]
      exact_mod_cast (Nat.le_div_iff_mul_le hDen).mp hBits
  case high =>
    have hBits : num / den < 2 ^ (w.precision + s) :=
      lt_of_lt_of_le Nat.lt_log2_self (Nat.pow_le_pow_right (by decide) (by omega))
    rw [pow_add, hPrecision] at hBits
    rw [div_lt_iff₀ hDenQ]
    exact_mod_cast (Nat.div_lt_iff_lt_mul hDen).mp hBits
  case le_iff =>
    have hPow : (0 : ℚ) < 2 ^ s := by positivity
    change roundHalfEven num (den * 2 ^ s) ≤ m ↔ _
    rw [roundHalfEven_le_iff (Nat.mul_pos hDen (Nat.two_pow_pos s)), Nat.cast_mul, Nat.cast_pow,
      Nat.cast_ofNat, ← div_div, mul_div_assoc', div_lt_iff₀ hPow, div_eq_iff hPow.ne']

/-- The ratio `q` of units is cut at or below the code `c`. -/
def CutAt (w : Width) (q : ℚ) (c : Nat) : Prop :=
  2 * q < w.units c + w.units (c + 1) ∨ 2 * q = w.units c + w.units (c + 1) ∧ c % 2 = 0

theorem cutAt_of_le {q : ℚ} (h : q ≤ w.units c) : w.CutAt q c := by
  have hNext : (w.units c : ℚ) < w.units (c + 1) := by
    exact_mod_cast w.units_strictMono (Nat.lt_succ_self c)
  exact .inl (by linarith)

theorem not_cutAt_of_le {q : ℚ} (h : (w.units (c + 1) : ℚ) ≤ q) : ¬ w.CutAt q c := by
  have hNext : (w.units c : ℚ) < w.units (c + 1) := by
    exact_mod_cast w.units_strictMono (Nat.lt_succ_self c)
  rintro (hCut | ⟨hCut, -⟩) <;> linarith

theorem codeOf_le_iff (hDen : 0 < den) (hFinite : c < w.infinity) :
    w.codeOf num den ≤ c ↔ w.CutAt (num / den) c := by
  obtain ⟨s, r, hRounds, hCode⟩ := w.exists_roundsTo num hDen
  have hStep := w.step_pos'
  have hLeast := hRounds.step_le
  have hGreatest := hRounds.le_two_mul_step
  rw [hCode, min_le_iff, or_iff_right (not_le.mpr hFinite)]
  obtain ⟨t, n, rfl, hLow, hHigh⟩ := w.exists_significand c
  rcases lt_trichotomy t s with hBelow | rfl | hAbove
  · have hCodes : t * w.step + n + 1 ≤ s * w.step + w.step := by
      have hScaled := Nat.mul_le_mul_right w.step (Nat.succ_le_of_lt hBelow)
      rw [Nat.succ_mul] at hScaled
      omega
    have hFirst : w.units (s * w.step + w.step) = w.step * 2 ^ s :=
      units_significand (.inr le_rfl) (by omega)
    refine iff_of_false (by omega) (not_cutAt_of_le ?_)
    calc (w.units (t * w.step + n + 1) : ℚ) ≤ w.units (s * w.step + w.step) := by
          exact_mod_cast w.units_strictMono.monotone hCodes
      _ = w.step * 2 ^ s := by exact_mod_cast hFirst
      _ ≤ num / den := hRounds.low.resolve_left (by omega)
  · rw [Nat.add_le_add_iff_left, hRounds.le_iff, CutAt, units_significand hLow hHigh.le,
      Nat.add_assoc, units_significand (hLow.imp_right Nat.le_succ_of_le) hHigh]
    have hParity : (t * w.step + n) % 2 = n % 2 := by
      rw [w.step_eq_two_mul]
      have : t * (2 * (w.step / 2)) = 2 * (t * (w.step / 2)) := by ring
      omega
    have hMiddle : ((2 * n + 1) * 2 ^ t : ℚ) = (n * 2 ^ t : ℕ) + ((n + 1) * 2 ^ t : ℕ) := by
      push_cast
      ring
    rw [hParity, hMiddle]
  · have hCodes : s * w.step + 2 * w.step ≤ t * w.step + n := by
      have hScaled := Nat.mul_le_mul_right w.step (Nat.succ_le_of_lt hAbove)
      rw [Nat.succ_mul] at hScaled
      omega
    have hLast : w.units (s * w.step + 2 * w.step) = 2 * w.step * 2 ^ s :=
      units_significand (.inr (by omega)) le_rfl
    refine iff_of_true (by omega) (cutAt_of_le ?_)
    calc (num / den : ℚ) ≤ 2 * w.step * 2 ^ s := hRounds.high.le
      _ = w.units (s * w.step + 2 * w.step) := by exact_mod_cast hLast.symm
      _ ≤ w.units (t * w.step + n) := by
          exact_mod_cast w.units_strictMono.monotone hCodes

theorem codeOf_le_infinity : w.codeOf num den ≤ w.infinity := Nat.min_le_left _ _

/-- Beyond the middle between the greatest finite magnitude and the next one, which is odd, ratios
are rounded to infinity. -/
theorem codeOf_eq_infinity_iff (hDen : 0 < den) :
    w.codeOf num den = w.infinity ↔
      (w.units (w.infinity - 1) + w.units w.infinity : ℚ) ≤ 2 * (num / den) := by
  have hLast : w.infinity - 1 < w.infinity := by cases w <;> decide
  have hOdd : ¬ (w.infinity - 1) % 2 = 0 := by cases w <;> decide
  have hNext : w.infinity - 1 + 1 = w.infinity := by omega
  have hCut : w.codeOf num den ≤ _ ↔ _ := w.codeOf_le_iff hDen hLast
  rw [CutAt, hNext] at hCut
  rw [← not_lt, ← or_iff_left (a := _ < _) (fun h : 2 * (num / den : ℚ) =
    w.units (w.infinity - 1) + w.units w.infinity ∧ (w.infinity - 1) % 2 = 0 => hOdd h.2), ← hCut]
  have hCode : w.codeOf num den ≤ w.infinity := w.codeOf_le_infinity
  omega

/-- Of two units on either side of their middle the nearer one is on the side of `q`. -/
theorem abs_sub_lt_or_eq {a b q : ℚ} (hOrder : a < b) (hMiddle : a + b ≤ 2 * q) :
    |b - q| < |a - q| ∨ |b - q| = |a - q| ∧ 2 * q = a + b := by
  have hLow : |a - q| = q - a := by
    rw [abs_sub_comm]
    exact abs_of_nonneg (by linarith)
  rcases lt_or_eq_of_le hMiddle with hLess | hSame
  · left
    rw [hLow, abs_lt]
    constructor <;> linarith
  · right
    rw [hLow, abs_of_nonneg (by linarith)]
    constructor <;> linarith

/-- No code is nearer to the ratio than the one it is rounded to, and if one is as near, that is
even. -/
theorem nearest_codeOf (hDen : 0 < den) (hFinite : w.codeOf num den < w.infinity)
    (hOther : c ≠ w.codeOf num den) :
    |(w.units (w.codeOf num den) - num / den : ℚ)| < |(w.units c - num / den : ℚ)| ∨
      |(w.units (w.codeOf num den) - num / den : ℚ)| = |(w.units c - num / den : ℚ)| ∧
        w.codeOf num den % 2 = 0 := by
  have hCut (d : Nat) (hd : d < w.infinity) : w.codeOf num den ≤ d ↔ w.CutAt (num / den) d :=
    w.codeOf_le_iff hDen hd
  generalize w.codeOf num den = k at *
  generalize (num / den : ℚ) = q at *
  rcases Nat.lt_or_gt_of_ne hOther with hBelow | hAbove
  · have hUnits : (w.units c : ℚ) ≤ w.units (k - 1) := by
      exact_mod_cast w.units_strictMono.monotone (Nat.le_sub_one_of_lt hBelow)
    have hOrder : (w.units c : ℚ) < w.units k := by exact_mod_cast w.units_strictMono hBelow
    have hNotBelow := (not_congr (hCut (k - 1) (by omega))).mp (by omega)
    rw [CutAt, Nat.sub_add_cancel (Nat.one_le_of_lt hBelow), not_or, not_lt] at hNotBelow
    obtain ⟨hMiddle, hParity⟩ := hNotBelow
    refine (abs_sub_lt_or_eq hOrder (by linarith)).imp_right fun ⟨hSame, hTie⟩ => ⟨hSame, ?_⟩
    have hOdd : ¬ (k - 1) % 2 = 0 := fun hEven => hParity ⟨by linarith, hEven⟩
    omega
  · have hUnits : (w.units (k + 1) : ℚ) ≤ w.units c := by
      exact_mod_cast w.units_strictMono.monotone hAbove
    have hOrder : (w.units k : ℚ) < w.units c := by exact_mod_cast w.units_strictMono hAbove
    have hMiddle := (hCut k hFinite).mp le_rfl
    -- the same seen from above: all signs are turned
    have hTurned (a : ℚ) : |-a - -q| = |a - q| := by rw [← abs_neg (a - q), neg_sub_neg, neg_sub]
    have hLess : -(w.units c : ℚ) + -w.units k ≤ 2 * -q := by
      rcases hMiddle with hMiddle | ⟨hMiddle, -⟩ <;> linarith
    have hSides := abs_sub_lt_or_eq (neg_lt_neg hOrder) hLess
    rw [hTurned, hTurned] at hSides
    refine hSides.imp_right fun ⟨hSame, hTie⟩ => ⟨hSame, ?_⟩
    rcases hMiddle with hMiddle | ⟨-, hEven⟩
    · linarith
    · exact hEven

end Width

end ScriptBridge
