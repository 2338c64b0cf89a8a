import ScriptBridge.Codec.Encode
import ScriptBridge.Proofs.Binary.Conversion
import ScriptBridge.Proofs.Codec.Numerals

/-!
# Numbers at the types of floats

A number of scripts decodes as the float nearest to it, whole numbers by way of 64 bits. It is
itself wherever the type has it, so a float of 32 bits goes to scripts and comes back unchanged.
Rounding keeps the order of numbers, whole ones and floats alike and twice too, and takes no whole
number to an infinity.
-/
namespace ScriptBridge
set_option autoImplicit false

namespace Binary

variable {w : Width} {x : Binary w}

theorem isInfinite_iff : x.isInfinite = true ↔ x.extended = ⊥ ∨ x.extended = ⊤ := by
  cases hInfinite : x.isInfinite with
  | true =>
    rw [extended_of_infinite hInfinite]
    cases x.negative <;> simp
  | false =>
    rw [extended, hInfinite]
    simp [Extended.ofRat]

/-- Far beyond the whole numbers of scripts. -/
theorem le_overflow (w : Width) : 2 ^ 65 ≤ w.overflow := by
  have hHalf : (2 : ℚ) ^ (w.bias - w.precision) ≤ 2 ^ w.bias :=
    pow_le_pow_right₀ one_le_two (Nat.sub_le _ _)
  have hBias : (2 : ℚ) ^ 65 ≤ 2 ^ w.bias :=
    pow_le_pow_right₀ one_le_two (by cases w <;> decide)
  have hDouble : (2 : ℚ) ^ (w.bias + 1) = 2 * 2 ^ w.bias := pow_succ' 2 w.bias
  rw [Width.overflow, hDouble]
  linarith

theorem overflow_single : Width.single.overflow = 2 ^ 128 - 2 ^ 103 := rfl

end Binary

namespace Numeral

def isNaN : Numeral → Bool
  | integer _ => false
  | float x => x.isNaN

/-- The value of the number; an infinite float is beyond all others. -/
def extended : Numeral → Extended
  | integer i => .ofRat i.toInt
  | float x => x.extended

/-- How a number that is no NaN decodes at the type of floats of this width. -/
structure Decodes (n : Numeral) {w : Width} (x : Binary w) : Prop where
  notNaN : x.isNaN = false
  exact : ∀ y : Binary w, y.isNaN = false → y.extended = n.extended → x.extended = n.extended
  infinite_iff : x.isInfinite = true ↔ n.extended = ⊥ ∨ n.extended = ⊤ ∨
    w = .single ∧ ∃ q : ℚ, n.extended = .ofRat q ∧ 2 ^ 128 - 2 ^ 103 ≤ |q|

variable {m n : Numeral} {w : Width}

theorem nearest_integer (i : Int64) :
    (toBinary64 (.integer i)).Nearest i.toInt := Binary.nearest_ofInt .double i.toInt

theorem isNaN_toBinary64 (h : n.isNaN = false) : n.toBinary64.isNaN = false := by
  cases n with
  | integer i => exact (nearest_integer i).notNaN
  | float x => exact h

theorem extended_toBinary64_mono (hm : m.isNaN = false) (hn : n.isNaN = false)
    (h : m.extended ≤ n.extended) : m.toBinary64.extended ≤ n.toBinary64.extended := by
  cases m with
  | integer i =>
    cases n with
    | integer j => exact (nearest_integer i).mono (nearest_integer j) (Extended.ofRat_le_ofRat.mp h)
    | float y => exact (nearest_integer i).extended_le hn h
  | float x =>
    cases n with
    | integer j => exact (nearest_integer j).le_extended hm h
    | float y => exact h

theorem extended_toBinary64 {y : Binary64} (hy : y.isNaN = false) (h : y.extended = n.extended) :
    n.toBinary64.extended = n.extended := by
  cases n with
  | integer i =>
    have hValue : y.extended = .ofRat i.toInt := h
    have hLow := (nearest_integer i).extended_le hy hValue.ge
    have hHigh := (nearest_integer i).le_extended hy hValue.le
    exact (le_antisymm hLow hHigh).trans hValue
  | float x => rfl

theorem isFinite_integer (i : Int64) : (toBinary64 (.integer i)).isFinite = true := by
  have hOverflow := Binary.le_overflow .double
  have hLow : (-2 ^ 63 : ℚ) ≤ i.toInt := by exact_mod_cast i.le_toInt
  have hHigh : (i.toInt : ℚ) < 2 ^ 63 := by exact_mod_cast i.toInt_lt
  refine (Binary.finite_or_infinite (nearest_integer i).notNaN).resolve_right fun hInfinite => ?_
  have hBeyond := (nearest_integer i).infinite_iff.mp hInfinite
  have hAbs : |(i.toInt : ℚ)| ≤ 2 ^ 63 := abs_le.mpr ⟨hLow, hHigh.le⟩
  linarith

/-- Zero is a float, so the one nearest to a whole number is at most twice as far from zero. -/
theorem abs_value_integer_lt (i : Int64) : |(toBinary64 (.integer i)).value| < 2 ^ 65 := by
  have hLow : (-2 ^ 63 : ℚ) ≤ i.toInt := by exact_mod_cast i.le_toInt
  have hHigh : (i.toInt : ℚ) < 2 ^ 63 := by exact_mod_cast i.toInt_lt
  have hNearest := (nearest_integer i).abs_sub_le (isFinite_integer i)
    (show (Binary.zero .double false).isFinite = true by decide)
  rw [Binary.value_zero, zero_sub, abs_neg] at hNearest
  have hAbs : |(i.toInt : ℚ)| ≤ 2 ^ 63 := abs_le.mpr ⟨hLow, hHigh.le⟩
  have hTriangle := abs_le.mp (hNearest.trans hAbs)
  rw [abs_lt]
  constructor <;> linarith

theorem isInfinite_toBinary64_iff :
    n.toBinary64.isInfinite = true ↔ n.extended = ⊥ ∨ n.extended = ⊤ := by
  cases n with
  | integer i =>
    rw [Binary.not_infinite_of_finite (isFinite_integer i)]
    simp [extended, Extended.ofRat]
  | float x => exact Binary.isInfinite_iff

/-- Whether the float of a number is beyond those of 32 bits shows in the number itself. -/
theorem overflow_le_iff (h : n.toBinary64.isFinite = true) :
    Width.single.overflow ≤ |n.toBinary64.value| ↔
      ∃ q : ℚ, n.extended = .ofRat q ∧ Width.single.overflow ≤ |q| := by
  cases n with
  | integer i =>
    have hOverflow := Binary.le_overflow .single
    have hValue := abs_value_integer_lt i
    refine iff_of_false (by linarith) ?_
    rintro ⟨q, hq, hBeyond⟩
    obtain rfl : (i.toInt : ℚ) = q := Extended.ofRat_injective hq
    have hLow : (-2 ^ 63 : ℚ) ≤ i.toInt := by exact_mod_cast i.le_toInt
    have hHigh : (i.toInt : ℚ) < 2 ^ 63 := by exact_mod_cast i.toInt_lt
    have hAbs : |(i.toInt : ℚ)| ≤ 2 ^ 63 := abs_le.mpr ⟨hLow, hHigh.le⟩
    linarith
  | float x =>
    have hExtended : extended (.float x) = .ofRat x.value := Binary.extended_of_finite h
    rw [hExtended]
    constructor
    · exact fun hBeyond => ⟨x.value, rfl, hBeyond⟩
    · rintro ⟨q, hq, hBeyond⟩
      rwa [← Extended.ofRat_injective hq] at hBeyond

theorem decodes_double (h : n.isNaN = false) : n.Decodes n.toBinary64 where
  notNaN := isNaN_toBinary64 h
  exact _ := extended_toBinary64
  infinite_iff := by
    rw [isInfinite_toBinary64_iff]
    simp

theorem decodes_single (h : n.isNaN = false) : n.Decodes (n.toBinary64.convert .single) where
  notNaN := Binary.isNaN_convert (isNaN_toBinary64 h)
  exact y hy hSame := by
    have hWide := Binary.extended_convert_double hy
    have hThere : n.toBinary64.extended = n.extended :=
      extended_toBinary64 (Binary.isNaN_convert hy) (hWide.trans hSame)
    rw [Binary.extended_convert (isNaN_toBinary64 h) hy (hSame.trans hThere.symm), hThere]
  infinite_iff := by
    rw [← Binary.overflow_single, ← or_assoc, ← isInfinite_toBinary64_iff]
    rcases Binary.finite_or_infinite (isNaN_toBinary64 h) with hFinite | hInfinite
    · rw [(Binary.nearest_convert hFinite).infinite_iff, overflow_le_iff hFinite,
        Binary.not_infinite_of_finite hFinite]
      simp
    · rw [Binary.convert_of_infinite hInfinite, Binary.isInfinite_infinity, hInfinite]
      simp

theorem decodes_ofBinary64 (h : n.isNaN = false) :
    n.Decodes (Binary.ofBinary64 w n.toBinary64) := by
  cases w with
  | single => exact decodes_single h
  | double => exact decodes_double h

end Numeral

namespace Codec

variable {codec : CodecConfig} {τ : Type} {ids : Identities τ} {w : Width}

theorem decode_float_ofNumeral (n : Numeral) :
    decode codec ids (.float w) (.ofNumeral n) = .ok (.ofBinary64 w n.toBinary64) := by
  rw [decode, float?_ofNumeral]

end Codec

/-- Numbers are decoded at the types of floats by rounding them to nearest, ties to even, whole
numbers twice at 32 bits. They are themselves where the type has them. Their order is kept, and
infinities come from infinities and, at 32 bits, from beyond the middle above the greatest number.
What came from 32 bits goes back to its bits. -/
theorem floats_decoded_in_order (codec : CodecConfig) {τ : Type} (ids : Identities τ) :
    (∀ i : Int64, ∃ (x : Binary64) (y : Binary32),
      Codec.decode codec ids (.float .double) (.integer i) = .ok x ∧ x.Nearest i.toInt ∧
      Codec.decode codec ids (.float .single) (.integer i) = .ok y ∧ y.Nearest x.value) ∧
    (∀ x : Binary64, x.isFinite = true → ∃ y : Binary32,
      Codec.decode codec ids (.float .double) (.number x) = .ok x ∧
      Codec.decode codec ids (.float .single) (.number x) = .ok y ∧ y.Nearest x.value ∧
      y.negative = x.negative) ∧
    (∀ (w : Width) (n : Numeral), n.isNaN = false → ∃ x : Binary w,
      Codec.decode codec ids (.float w) (.ofNumeral n) = .ok x ∧ n.Decodes x) ∧
    (∀ (w : Width) (m n : Numeral) (x y : Binary w), m.isNaN = false → n.isNaN = false →
      m.extended ≤ n.extended → Codec.decode codec ids (.float w) (.ofNumeral m) = .ok x →
      Codec.decode codec ids (.float w) (.ofNumeral n) = .ok y → x.extended ≤ y.extended) ∧
    ∀ x : Binary32, ∃ (v : Value) (y : Binary32),
      Codec.encode (.float .single : NativeType τ) x = .ok v ∧
      Codec.decode codec ids (.float .single) v = .ok y ∧
      (x.isNaN = false → y = x) ∧ (x.isNaN = true → y.isNaN = true) := by
  refine ⟨fun i => ?_, fun x hx => ?_, fun w n hn => ?_, ?_, fun x => ?_⟩
  · have hRounded := Numeral.nearest_integer i
    have hAgain := Binary.nearest_convert (v := .single) (Numeral.isFinite_integer i)
    exact ⟨_, _, rfl, hRounded, rfl, hAgain⟩
  · exact ⟨x.convert .single, rfl, rfl, Binary.nearest_convert hx, x.negative_convert⟩
  · exact ⟨_, Codec.decode_float_ofNumeral n, Numeral.decodes_ofBinary64 hn⟩
  · intro w m n x y hm hn hOrder hx hy
    rw [Codec.decode_float_ofNumeral] at hx hy
    cases hx
    cases hy
    have hWide := Numeral.extended_toBinary64_mono hm hn hOrder
    cases w with
    | single =>
      exact Binary.extended_convert_mono (Numeral.isNaN_toBinary64 hm) (Numeral.isNaN_toBinary64 hn)
        hWide
    | double => exact hWide
  · exact ⟨.number x.toBinary64, _, rfl, rfl, Binary.ofBinary64_toBinary64,
      Binary.isNaN_ofBinary64_toBinary64⟩

/-- The greatest whole number of scripts against the float that follows it, and the negative number
of 32 bits that is nearest to zero. -/
theorem floats_decoded_in_order_edges :
    let ids : Identities Empty := ⟨nofun, nofun, fun _ => none⟩
    let power : Binary64 := .ofBits .double 0x43E0000000000000
    let greatest : Numeral := .integer Int64.maxValue
    let least : Binary32 := .ofBits .single 0x80000001
    let decode (v : Value) := Codec.decode {} ids (.float .single) v
    power.isFinite = true ∧ greatest.isNaN = false ∧
      greatest.extended ≤ (Numeral.float power).extended ∧
      (∃ x y : Binary32, decode (.ofNumeral greatest) = .ok x ∧ decode (.number power) = .ok y ∧
        greatest.Decodes x ∧ y.Nearest power.value ∧ x.extended ≤ y.extended) ∧
      least.isNaN = false ∧
      ∃ v, Codec.encode (.float .single : NativeType Empty) least = .ok v ∧
        decode v = .ok least := by
  intro ids power greatest least decode
  have hPower : power.isFinite = true ∧ power.value = (2 ^ 63 : Int) :=
    Binary.toInt?_eq_some_iff.mp (by decide +kernel)
  have hGreatest : greatest.isNaN = false := rfl
  have hNumber : (Numeral.float power).isNaN = false := Binary.not_nan_of_finite hPower.1
  have hLeast : least.isNaN = false := by decide +kernel
  have hOrder : greatest.extended ≤ (Numeral.float power).extended := by
    have hExtended : (Numeral.float power).extended = .ofRat power.value :=
      Binary.extended_of_finite hPower.1
    have hLess : (Int64.maxValue.toInt : ℚ) ≤ (2 ^ 63 : Int) := by
      exact_mod_cast (by decide : Int64.maxValue.toInt ≤ 2 ^ 63)
    rw [hExtended, hPower.2]
    exact Extended.ofRat_le_ofRat.mpr hLess
  obtain ⟨-, hFloats, hDecodes, hMonotone, hBack⟩ := floats_decoded_in_order {} ids
  obtain ⟨y, -, hy, hNearest, -⟩ := hFloats power hPower.1
  obtain ⟨x, hx, hxDecodes⟩ := hDecodes .single greatest hGreatest
  obtain ⟨v, u, hEncode, hDecode, hSame, -⟩ := hBack least
  have hOrdered := hMonotone .single greatest (.float power) x y hGreatest hNumber hOrder hx hy
  obtain rfl := hSame hLeast
  exact ⟨hPower.1, hGreatest, hOrder, ⟨x, y, hx, hy, hxDecodes, hNearest, hOrdered⟩, hLeast, v,
    hEncode, hDecode⟩

end ScriptBridge
