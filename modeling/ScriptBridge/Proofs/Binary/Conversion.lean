import ScriptBridge.Proofs.Binary.Nearest

/-!
# Conversions of binary numbers

Whole numbers and numbers of other formats are rounded to nearest once. Infinities stay what they
are, and so does every finite number that the wanted format has. The numbers of 32 bits are among
those of 64, so they go there and come back with the same bits.
-/
namespace ScriptBridge
set_option autoImplicit false

namespace Binary

variable {w v : Width} {x y : Binary w}

theorem nearest_ofInt (w : Width) (i : ℤ) : Nearest (i : ℚ) (ofInt w i) := by
  have hOne := (one_pos w).ne'
  have hValue : signOf (decide (i < 0)) * ((i.natAbs * w.one : ℕ) / (1 : ℕ) / w.one) = (i : ℚ) := by
    have hAbs : ((i.natAbs * w.one : ℕ) / (1 : ℕ) / w.one : ℚ) = |(i : ℚ)| := by
      push_cast
      rw [div_one, mul_div_cancel_right₀ _ hOne, Nat.cast_natAbs, Int.cast_abs]
    rw [hAbs, signOf]
    by_cases hSign : i < 0
    · have hNeg : (i : ℚ) < 0 := by exact_mod_cast hSign
      simp [hSign, abs_of_neg hNeg]
    · have hNonneg : (0 : ℚ) ≤ i := by exact_mod_cast not_lt.mp hSign
      simp [hSign, abs_of_nonneg hNonneg]
  rw [← hValue]
  exact nearest_round w _ Nat.one_pos

theorem nearest_convert (h : x.isFinite = true) : Nearest x.value (x.convert v) := by
  have hOne := (one_pos v).ne'
  have hValue : x.value =
      signOf x.negative * ((w.units x.magnitude * v.one : ℕ) / w.one / v.one) := by
    push_cast
    rw [value_eq, div_right_comm, mul_div_cancel_right₀ _ hOne]
  rw [convert, if_neg (by simp [not_nan_of_finite h]), if_neg (by simp [not_infinite_of_finite h]),
    hValue]
  exact nearest_round v _ (Nat.two_pow_pos _)

theorem isNaN_nan (negative : Bool) : (nan w negative).isNaN = true := by
  cases w <;> cases negative <;> decide

theorem convert_of_nan (h : x.isNaN = true) : x.convert v = nan v x.negative := by
  rw [convert, if_pos h]

theorem convert_of_infinite (h : x.isInfinite = true) : x.convert v = infinity v x.negative := by
  have hNotNaN : x.isNaN = false := decide_eq_false (not_lt.mpr (beq_iff_eq.mp h).le)
  rw [convert, if_neg (by simp [hNotNaN]), if_pos h]

theorem isInfinite_infinity (negative : Bool) : (infinity w negative).isInfinite = true :=
  beq_self_eq_true _

theorem extended_convert_of_infinite (h : x.isInfinite = true) :
    (x.convert v).extended = x.extended := by
  rw [convert_of_infinite h, extended_of_infinite (isInfinite_infinity _), extended_of_infinite h]
  rfl

theorem isNaN_convert (h : x.isNaN = false) : (x.convert v).isNaN = false := by
  rcases finite_or_infinite h with hFinite | hInfinite
  · exact (nearest_convert hFinite).notNaN
  · rw [convert_of_infinite hInfinite]
    exact decide_eq_false (lt_irrefl _)

theorem extended_convert_mono (hx : x.isNaN = false) (hy : y.isNaN = false)
    (h : x.extended ≤ y.extended) : (x.convert v).extended ≤ (y.convert v).extended := by
  rcases finite_or_infinite hx with hxFinite | hxInfinite
  · rcases finite_or_infinite hy with hyFinite | hyInfinite
    · rw [extended_of_finite hxFinite, extended_of_finite hyFinite, Extended.ofRat_le_ofRat] at h
      exact (nearest_convert hxFinite).mono (nearest_convert hyFinite) h
    · rw [extended_of_finite hxFinite, extended_of_infinite hyInfinite] at h
      rw [extended_convert_of_infinite hyInfinite, extended_of_infinite hyInfinite]
      split
      · rename_i hSign
        rw [if_pos hSign] at h
        exact absurd h Extended.not_ofRat_le_bot
      · exact le_top
  · rcases finite_or_infinite hy with hyFinite | hyInfinite
    · rw [extended_of_finite hyFinite, extended_of_infinite hxInfinite] at h
      rw [extended_convert_of_infinite hxInfinite, extended_of_infinite hxInfinite]
      split
      · exact bot_le
      · rename_i hSign
        rw [if_neg hSign] at h
        exact absurd h Extended.not_top_le_ofRat
    · rw [extended_convert_of_infinite hxInfinite, extended_convert_of_infinite hyInfinite]
      exact h

/-- A conversion is exact if the wanted format has the number. -/
theorem extended_convert {z : Binary v} (hx : x.isNaN = false) (hz : z.isNaN = false)
    (h : z.extended = x.extended) : (x.convert v).extended = x.extended := by
  rcases finite_or_infinite hx with hFinite | hInfinite
  · have hNearest := nearest_convert (v := v) hFinite
    rw [extended_of_finite hFinite] at h
    rw [extended_of_finite hFinite, ← h]
    exact le_antisymm (hNearest.extended_le hz h.ge) (hNearest.le_extended hz h.le)
  · exact extended_convert_of_infinite hInfinite

@[simp] theorem negative_convert (x : Binary w) : (x.convert v).negative = x.negative := by
  rw [convert]
  split
  · rfl
  · split <;> rfl

theorem eq_of_extended_eq (hx : x.isNaN = false) (hy : y.isNaN = false)
    (hSign : x.negative = y.negative) (h : x.extended = y.extended) : x = y := by
  have hMagnitude : x.magnitude.val = y.magnitude.val := by
    rcases finite_or_infinite hx with hxFinite | hxInfinite
    · rcases finite_or_infinite hy with hyFinite | hyInfinite
      · rw [extended_of_finite hxFinite, extended_of_finite hyFinite] at h
        have hNotLess := (not_congr value_lt_iff).mp (Extended.ofRat_le_ofRat.mp h.ge).not_gt
        have hNotMore := (not_congr value_lt_iff).mp (Extended.ofRat_le_ofRat.mp h.le).not_gt
        have hRank : x.rank = y.rank := by omega
        rw [rank, rank, hSign] at hRank
        split at hRank <;> omega
      · rw [extended_of_finite hxFinite, extended_of_infinite hyInfinite] at h
        split at h
        · exact absurd h.le Extended.not_ofRat_le_bot
        · exact absurd h.ge Extended.not_top_le_ofRat
    · rcases finite_or_infinite hy with hyFinite | hyInfinite
      · rw [extended_of_finite hyFinite, extended_of_infinite hxInfinite] at h
        split at h
        · exact absurd h.ge Extended.not_ofRat_le_bot
        · exact absurd h.le Extended.not_top_le_ofRat
      · exact (beq_iff_eq.mp hxInfinite).trans (beq_iff_eq.mp hyInfinite).symm
  obtain ⟨sign, magnitude⟩ := x
  obtain rfl : sign = y.negative := hSign
  exact congrArg _ (Fin.ext hMagnitude)

/-- Every finite number of 32 bits is one of 64. -/
theorem exists_double (x : Binary32) (h : x.isFinite = true) :
    ∃ y : Binary64, y.isFinite = true ∧ y.value = x.value := by
  obtain ⟨s, n, hCode, hLow, hHigh⟩ := Width.single.exists_significand x.magnitude
  have hUnits : Width.single.units x.magnitude = n * 2 ^ s := by
    rw [hCode]
    exact Width.units_significand hLow hHigh.le
  have hStep : 2 * Width.single.step ≤ 2 * Width.double.step := by decide
  obtain ⟨k, hOne, hRoom⟩ : ∃ k, Width.double.one = Width.single.one * 2 ^ k ∧
      Width.single.units Width.single.infinity * 2 ^ k ≤
        Width.double.units Width.double.infinity :=
    ⟨925, by decide +kernel, by decide +kernel⟩
  obtain ⟨c, hWide⟩ := Width.exists_units (w := .double) (hHigh.le.trans hStep) (s + k)
  rw [pow_add, ← mul_assoc, ← hUnits] at hWide
  have hFinite : c < Width.double.infinity := by
    refine Width.double.units_strictMono.lt_iff_lt.mp ?_
    have hLess := Width.single.units_strictMono (of_decide_eq_true h : _ < Width.single.infinity)
    rw [hWide]
    exact (Nat.mul_lt_mul_of_pos_right hLess (Nat.two_pow_pos _)).trans_le hRoom
  refine ⟨⟨x.negative, ⟨c, hFinite.trans Width.double.infinity_lt⟩⟩, decide_eq_true hFinite, ?_⟩
  have hScale : ((2 ^ k : ℕ) : ℚ) ≠ 0 := by positivity
  rw [value_eq, value_eq]
  change signOf x.negative * (Width.double.units c / _) = _
  rw [hWide, hOne, Nat.cast_mul, Nat.cast_mul, mul_div_mul_right _ _ hScale]

theorem extended_convert_double {x : Binary32} (h : x.isNaN = false) :
    (x.convert .double).extended = x.extended := by
  rcases finite_or_infinite h with hFinite | hInfinite
  · obtain ⟨y, hy, hValue⟩ := exists_double x hFinite
    refine extended_convert h (not_nan_of_finite hy) ?_
    rw [extended_of_finite hFinite, extended_of_finite hy, hValue]
  · exact extended_convert_of_infinite hInfinite

theorem ofBinary64_toBinary64 (h : x.isNaN = false) : ofBinary64 w x.toBinary64 = x := by
  cases w with
  | single =>
    refine eq_of_extended_eq (isNaN_convert (isNaN_convert h)) h ?_ ?_
    · exact (negative_convert _).trans (negative_convert x)
    · have hThere := extended_convert_double h
      exact (extended_convert (isNaN_convert h) h hThere.symm).trans hThere
  | double => rfl

theorem isNaN_ofBinary64_toBinary64 (h : x.isNaN = true) :
    (ofBinary64 w x.toBinary64).isNaN = true := by
  cases w with
  | single =>
    change ((x.convert .double).convert .single).isNaN = true
    rw [convert_of_nan h, convert_of_nan (isNaN_nan _)]
    exact isNaN_nan _
  | double => exact h

end Binary

end ScriptBridge
