import ScriptBridge.Codec.Decode
import ScriptBridge.Proofs.Binary.Value
import ScriptBridge.Proofs.Codec.Integer

/-!
# Whole numbers from scripts

An integer type takes a whole number of scripts as itself or not at all. A float first has to be
worth a whole number of 64 bits: exactly, or once its fraction is cut off. Neither step wraps around
or stops at a bound.
-/
namespace ScriptBridge
set_option autoImplicit false

/-- Under this coercion the float `x` is worth the whole number `n`. -/
inductive IntegerCoercion.Takes : IntegerCoercion → Binary64 → Int → Prop where
  | exact {x : Binary64} {n : Int} (finite : x.isFinite = true) (whole : x.value = n)
      (range : -2 ^ 63 ≤ n ∧ n < 2 ^ 63) : Takes .exact x n
  | truncate {x : Binary64} {n : Int} (finite : x.isFinite = true) (cut : towardZero x.value = n)
      (range : -2 ^ 63 ≤ n ∧ n < 2 ^ 63) : Takes .truncate x n

namespace IntegerCoercion.Takes

variable {c : IntegerCoercion} {x : Binary64} {n : Int}

theorem isFinite (h : c.Takes x n) : x.isFinite = true := by
  cases h with
  | exact finite => exact finite
  | truncate finite => exact finite

theorem range (h : c.Takes x n) : -2 ^ 63 ≤ n ∧ n < 2 ^ 63 := by
  cases h with
  | exact _ _ range => exact range
  | truncate _ _ range => exact range

/-- Both coercions take a whole number as it is. -/
theorem eq_of_whole {m : Int} (h : c.Takes x n) (hWhole : x.value = m) : n = m := by
  cases h with
  | exact _ whole => exact_mod_cast whole.symm.trans hWhole
  | truncate _ cut => rw [← cut, hWhole, towardZero_intCast]

theorem of_whole (hFinite : x.isFinite = true) (hWhole : x.value = n)
    (range : -2 ^ 63 ≤ n ∧ n < 2 ^ 63) : c.Takes x n := by
  cases c with
  | exact => exact .exact hFinite hWhole range
  | truncate => exact .truncate hFinite (by rw [hWhole, towardZero_intCast]) range

end IntegerCoercion.Takes

/-- The type takes the whole number `n` as itself if it is between the bounds, and as no other. -/
structure Lands (t : IntegerType) (n : Int) (r : Except String (Bounded t)) : Prop where
  inside : ∀ (least_le : t.least ≤ n) (le_greatest : n ≤ t.greatest),
    r = .ok ⟨n, least_le, le_greatest⟩
  outside : n < t.least ∨ t.greatest < n → r = .error s!"out-of-range integer {n}"

theorem int64?_bind_eq_some_iff {m : Option Int} {i : Int64} :
    m.bind int64? = some i ↔ m = some i.toInt := by
  rw [Option.bind_eq_some_iff]
  constructor
  · rintro ⟨n, hn, hi⟩
    rw [int64?_eq_some_iff.mp hi]
    exact hn
  · intro h
    exact ⟨i.toInt, h, int64?_eq_some_iff.mpr rfl⟩

theorem int64_of_range {n : Int} (h : -2 ^ 63 ≤ n ∧ n < 2 ^ 63) : ∃ i : Int64, i.toInt = n := by
  refine ⟨Int64.ofInt n, Int64.toInt_ofInt_of_le ?_ ?_⟩
  · omega
  · omega

namespace Codec

variable {c : IntegerCoercion} {x : Binary64} {n : Int}

theorem floatToInteger?_eq_some_iff {i : Int64} :
    floatToInteger? c x = some i ↔ c.Takes x i.toInt := by
  have hRange : -2 ^ 63 ≤ i.toInt ∧ i.toInt < 2 ^ 63 := ⟨i.le_toInt, i.toInt_lt⟩
  cases c with
  | exact =>
    rw [floatToInteger?, int64?_bind_eq_some_iff, Binary.toInt?_eq_some_iff]
    constructor
    · rintro ⟨hFinite, hWhole⟩
      exact .exact hFinite hWhole hRange
    · rintro ⟨hFinite, hWhole, -⟩
      exact ⟨hFinite, hWhole⟩
  | truncate =>
    rw [floatToInteger?, int64?_bind_eq_some_iff, Binary.truncate?_eq_some_iff]
    constructor
    · rintro ⟨hFinite, hCut⟩
      exact .truncate hFinite hCut hRange
    · rintro (_ | ⟨hFinite, hCut, -⟩)
      exact ⟨hFinite, hCut⟩

theorem floatToInteger?_of_takes (h : c.Takes x n) :
    ∃ i : Int64, i.toInt = n ∧ floatToInteger? c x = some i := by
  obtain ⟨i, rfl⟩ := int64_of_range h.range
  exact ⟨i, rfl, floatToInteger?_eq_some_iff.mpr h⟩

theorem floatToInteger?_eq_none (h : ∀ n, ¬ c.Takes x n) : floatToInteger? c x = none := by
  apply Option.eq_none_iff_forall_ne_some.mpr
  intro i hi
  exact h i.toInt (floatToInteger?_eq_some_iff.mp hi)

variable {codec : CodecConfig} {τ : Type} {ids : Identities τ} {t : IntegerType} {v : Value}

theorem decode_integer_of_none (h : wholeNumber? codec v = none) :
    decode codec ids (.integer t) v = .error v.typeName := by
  rw [decode, h]

theorem decode_integer_lands {i : Int64} (h : wholeNumber? codec v = some i) :
    Lands t i.toInt (decode codec ids (.integer t) v) := by
  rw [decode, h]
  constructor
  · intro hLeast hGreatest
    simp only [Bounded.ofInt?, dif_pos (And.intro hLeast hGreatest)]
  · intro hOutside
    have hNot : ¬ (t.least ≤ i.toInt ∧ i.toInt ≤ t.greatest) := by omega
    simp only [Bounded.ofInt?, dif_neg hNot]

theorem decode_number_lands (h : codec.integerCoercion.Takes x n) :
    Lands t n (decode codec ids (.integer t) (.number x)) := by
  obtain ⟨i, rfl, hi⟩ := floatToInteger?_of_takes h
  exact decode_integer_lands hi

theorem decode_number_refused (h : ∀ n, ¬ codec.integerCoercion.Takes x n) :
    decode codec ids (.integer t) (.number x) = .error "number" := by
  have hNone : wholeNumber? codec (.number x) = none := floatToInteger?_eq_none h
  exact decode_integer_of_none hNone

end Codec

/-- An integer type takes a whole number of scripts as itself if it is in range, and a float as the
whole number of 64 bits that it is worth, which is no other than its value with the fraction cut
off. What is not finite is worth none and neither is `2 ^ 63`, but `-2 ^ 63` is; numbers between
minus one and zero are zero once they are cut. -/
theorem integers_decoded_exactly {τ : Type} (codec : CodecConfig) (ids : Identities τ)
    (t : IntegerType) :
    (∀ i : Int64, Lands t i.toInt (Codec.decode codec ids (.integer t) (.integer i))) ∧
    (∀ (x : Binary64) (n : Int), codec.integerCoercion.Takes x n →
      Lands t n (Codec.decode codec ids (.integer t) (.number x))) ∧
    (∀ x : Binary64, (∀ n, ¬ codec.integerCoercion.Takes x n) →
      Codec.decode codec ids (.integer t) (.number x) = .error "number") ∧
    (∀ x : Binary64, x.isFinite = false ∨ x.value = 2 ^ 63 →
      Codec.decode codec ids (.integer t) (.number x) = .error "number") ∧
    (∀ x : Binary64, x.isFinite = true → x.value = -2 ^ 63 →
      Codec.decode codec ids (.integer (.signed .bits64)) (.number x) =
        .ok ⟨-2 ^ 63, by decide, by decide⟩) ∧
    ∀ (size : IntegerSize) (x : Binary64), codec.integerCoercion = .truncate →
      x.isFinite = true → -1 < x.value → x.value < 0 →
        ∃ zero : Bounded (.unsigned size), zero.val = 0 ∧
          Codec.decode codec ids (.integer (.unsigned size)) (.number x) = .ok zero := by
  refine ⟨fun i => Codec.decode_integer_lands rfl, fun x n => Codec.decode_number_lands,
    fun x => Codec.decode_number_refused, ?_, ?_, ?_⟩
  · intro x hEdge
    apply Codec.decode_number_refused
    intro n hTakes
    rcases hEdge with hInfinite | hValue
    · rw [hTakes.isFinite] at hInfinite
      cases hInfinite
    · have hWhole : x.value = (2 ^ 63 : Int) := by exact_mod_cast hValue
      have hLess := hTakes.range.2
      rw [hTakes.eq_of_whole hWhole] at hLess
      exact Int.lt_irrefl _ hLess
  · intro x hFinite hValue
    have hWhole : x.value = (-2 ^ 63 : Int) := by exact_mod_cast hValue
    have hTakes : codec.integerCoercion.Takes x (-2 ^ 63) :=
      .of_whole hFinite hWhole (by decide)
    exact (Codec.decode_number_lands hTakes).inside (by decide) (by decide)
  · intro size x hCoercion hFinite hLess hNegative
    have hZero : towardZero x.value = 0 := towardZero_eq_zero hLess hNegative
    have hTakes : codec.integerCoercion.Takes x 0 := by
      rw [hCoercion]
      exact .truncate hFinite hZero (by decide)
    have hLeast : (IntegerType.unsigned size).least ≤ 0 := Int.le_refl 0
    have hGreatest : 0 ≤ (IntegerType.unsigned size).greatest := by cases size <;> decide
    exact ⟨⟨0, hLeast, hGreatest⟩, rfl, (Codec.decode_number_lands hTakes).inside hLeast hGreatest⟩

/-- At bytes, cutting fractions off: 300.5 is a whole number out of range, -0.5 is zero and the NaN
is no whole number at all. -/
theorem integers_decoded_exactly_bytes :
    let codec : CodecConfig := { integerCoercion := .truncate }
    let ids : Identities Empty := ⟨nofun, nofun, fun _ => none⟩
    let byte : IntegerType := .unsigned .bits8
    let large : Binary64 := .ofBits .double 0x4072C80000000000
    let small : Binary64 := .ofBits .double 0xBFE0000000000000
    let decode := Codec.decode codec ids (.integer byte)
    codec.integerCoercion.Takes large 300 ∧
      decode (.number large) = .error "out-of-range integer 300" ∧
      codec.integerCoercion.Takes small 0 ∧
      decode (.number small) = .ok ⟨0, by decide, by decide⟩ ∧
      decode (.number (.nan .double false)) = .error "number" := by
  intro codec ids byte large small decode
  have hCutLarge : Codec.floatToInteger? .truncate large = some 300 := by decide +kernel
  have hCutSmall : Codec.floatToInteger? .truncate small = some 0 := by decide +kernel
  have hLarge : codec.integerCoercion.Takes large 300 :=
    Codec.floatToInteger?_eq_some_iff.mp hCutLarge
  have hSmall : codec.integerCoercion.Takes small 0 :=
    Codec.floatToInteger?_eq_some_iff.mp hCutSmall
  obtain ⟨-, hTaken, -, hEdges, -⟩ := integers_decoded_exactly codec ids byte
  refine ⟨hLarge, (hTaken large 300 hLarge).outside (.inr (by decide)), hSmall,
    (hTaken small 0 hSmall).inside (by decide) (by decide), hEdges _ (.inl (by decide))⟩

end ScriptBridge
