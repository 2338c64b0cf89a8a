import ScriptBridge.Proofs.Codec.Settings
import ScriptBridge.Proofs.Codec.WholeNumbers

/-!
# Strings that stand for numbers

Where strings are read as numbers, a string decodes as the number does that it stands for. The
runtime is asked for a whole number first and for a float only if it has none; the float of a
numeral that is a whole number would have been taken for the same one.
-/
namespace ScriptBridge
set_option autoImplicit false

/-- The types of numbers, and options of them. -/
inductive NativeType.Numeric {τ : Type} : NativeType τ → Prop where
  | integer (t : IntegerType) : Numeric (.integer t)
  | float (w : Width) : Numeric (.float w)
  | option {t : NativeType τ} (h : t.Numeric) : Numeric (.option t)

/-- Under this coercion the numeral is worth the whole number `n`. -/
inductive Numeral.Worth (c : IntegerCoercion) : Numeral → Int → Prop where
  | integer (i : Int64) : Worth c (.integer i) i.toInt
  | float {x : Binary64} {n : Int} (h : c.Takes x n) : Worth c (.float x) n

namespace Value

variable {bytes : ByteArray} {r : Numeral}

theorem coerceInteger?_ofNumeral_eq_some_iff {i : Int64} :
    (ofNumeral r).coerceInteger? = some i ↔ r.Worth .exact i.toInt := by
  cases r with
  | integer j =>
    constructor
    · intro h
      rw [← Option.some.inj h]
      exact .integer j
    · intro h
      generalize hn : i.toInt = n at h
      cases h with
      | integer => rw [Int64.toInt_inj.mp hn, ofNumeral, coerceInteger?, toNumeral?]
  | float x =>
    have hTakes : Codec.floatToInteger? .exact x = some i ↔ IntegerCoercion.exact.Takes x i.toInt :=
      Codec.floatToInteger?_eq_some_iff
    refine hTakes.trans ⟨.float, ?_⟩
    rintro (_ | h)
    exact h

theorem coerceInteger?_string (hRead : Numeral.ofBytes? bytes = some r) :
    (string bytes).coerceInteger? = (ofNumeral r).coerceInteger? := by
  rw [coerceInteger?, coerceInteger?, toNumeral?, hRead]
  cases r <;> rfl

/-- The runtime has a string for a whole number if it stands for exactly one. -/
theorem coerceInteger?_string_eq_some_iff {i : Int64} :
    (string bytes).coerceInteger? = some i ↔
      ∃ r, Numeral.ofBytes? bytes = some r ∧ r.Worth .exact i.toInt := by
  cases hRead : Numeral.ofBytes? bytes with
  | none =>
    rw [coerceInteger?, toNumeral?, hRead]
    simp
  | some r =>
    rw [coerceInteger?_string hRead, coerceInteger?_ofNumeral_eq_some_iff]
    simp

theorem coerceNumber?_string :
    (string bytes).coerceNumber? = (Numeral.ofBytes? bytes).map Numeral.toBinary64 := rfl

theorem ofNumeral_ne_nil : ofNumeral r ≠ .nil := by cases r <;> nofun

end Value

namespace Codec

variable {codec : CodecConfig} {bytes : ByteArray} {r : Numeral}

theorem wholeNumber?_ofNumeral_of_worth {n : Int} (h : r.Worth codec.integerCoercion n) :
    ∃ i : Int64, i.toInt = n ∧ wholeNumber? codec (.ofNumeral r) = some i := by
  cases h with
  | integer i => exact ⟨i, rfl, rfl⟩
  | float h => exact floatToInteger?_of_takes h

theorem float?_ofNumeral : float? codec (.ofNumeral r) = some r.toBinary64 := by
  cases r <;> rfl

theorem float?_string (h : codec.stringToNumber = true) (hRead : Numeral.ofBytes? bytes = some r) :
    float? codec (.string bytes) = float? codec (.ofNumeral r) := by
  rw [float?_ofNumeral, float?, if_pos h, Value.coerceNumber?_string, hRead]
  rfl

theorem wholeNumber?_string (h : codec.stringToNumber = true)
    (hRead : Numeral.ofBytes? bytes = some r) :
    wholeNumber? codec (.string bytes) = wholeNumber? codec (.ofNumeral r) := by
  have hNumber : (Value.string bytes).coerceNumber? = some r.toBinary64 := by
    rw [Value.coerceNumber?_string, hRead]
    rfl
  rw [wholeNumber?, if_pos h, hNumber, Value.coerceInteger?_string hRead]
  cases r with
  | integer i => rfl
  | float x =>
    have hExact : IntegerCoercion.exact ≤ codec.integerCoercion := by
      intro h
      cases h
    cases hWhole : (Value.ofNumeral (.float x)).coerceInteger? with
    | none => rfl
    | some i =>
      -- a whole number is the same one whether fractions are refused or cut off
      have hTaken : floatToInteger? .exact x = some i := hWhole
      exact (floatToInteger?_mono hExact hTaken).symm

theorem numbers_of_no_numeral (codec : CodecConfig) (hRead : Numeral.ofBytes? bytes = none) :
    wholeNumber? codec (.string bytes) = none ∧ float? codec (.string bytes) = none := by
  have hNumber : (Value.string bytes).coerceNumber? = none := by
    rw [Value.coerceNumber?_string, hRead]
    rfl
  have hInteger : (Value.string bytes).coerceInteger? = none := by
    rw [Value.coerceInteger?, Value.toNumeral?, hRead]
  rw [wholeNumber?, float?, hNumber, hInteger]
  constructor
  · exact ite_self none
  · exact ite_self none

variable {other : CodecConfig} {τ : Type} {ids : Identities τ} {t : NativeType τ} {v w : Value}

/-- At the types of numbers decoding looks at nothing but the number of the kind that is wanted. -/
theorem decode_numeric_of_alike (ht : t.Numeric)
    (hWhole : t.kind = .integer → wholeNumber? other w = wholeNumber? codec v)
    (hFloat : t.kind = .number → float? other w = float? codec v) (hv : v ≠ .nil) (hw : w ≠ .nil)
    {a : t.Native} (h : decode codec ids t v = .ok a) : decode other ids t w = .ok a := by
  induction ht with
  | integer t =>
    rw [decode] at h ⊢
    rw [hWhole rfl]
    cases hi : wholeNumber? codec v with
    | none =>
      rw [hi] at h
      cases h
    | some i =>
      rw [hi] at h
      exact h
  | float width =>
    rw [decode] at h ⊢
    rw [hFloat rfl]
    cases hx : float? codec v with
    | none =>
      rw [hx] at h
      cases h
    | some x =>
      rw [hx] at h
      exact h
  | option _ ih =>
    rcases decode_option_eq_ok_iff.mp h with ⟨hNil, -⟩ | ⟨-, b, hDecode, rfl⟩
    · exact absurd hNil hv
    · exact decode_option_eq_ok_iff.mpr (.inr ⟨hw, b, ih hWhole hFloat hDecode, rfl⟩)

theorem decode_numeric_of_none (ht : t.Numeric)
    (hWhole : t.kind = .integer → wholeNumber? codec v = none)
    (hFloat : t.kind = .number → float? codec v = none) (hv : v ≠ .nil) :
    decode codec ids t v = .error v.typeName := by
  induction ht with
  | integer t => exact decode_integer_of_none (hWhole rfl)
  | float width => rw [decode, hFloat rfl]
  | option _ ih =>
    rw [decode_option_of_ne_nil hv, ih hWhole hFloat]
    rfl

end Codec

/-- With strings read as numbers, a string that stands for no number is refused as a string, and any
other decodes at the types of numbers as its number does, if that decodes, and to the same. At
integer types both are worth the same whole number, in range or out of it, and at floats both are
the number rounded to the type. The runtime's own coercions are those of the number. -/
theorem strings_decoded_as_numbers {τ : Type} (codec : CodecConfig)
    (h : codec.stringToNumber = true) (ids : Identities τ) (bytes : ByteArray) :
    (∀ i, (Value.string bytes).coerceInteger? = some i ↔
      ∃ r, Numeral.ofBytes? bytes = some r ∧ r.Worth .exact i.toInt) ∧
    (Value.string bytes).coerceNumber? = (Numeral.ofBytes? bytes).map Numeral.toBinary64 ∧
    (Numeral.ofBytes? bytes = none → ∀ t : NativeType τ, t.Numeric →
      Codec.decode codec ids t (.string bytes) = .error "string") ∧
    ∀ r, Numeral.ofBytes? bytes = some r →
      (∀ t : NativeType τ, t.Numeric → ∀ a, Codec.decode codec ids t (.string bytes) = .ok a ↔
        Codec.decode codec ids t (.ofNumeral r) = .ok a) ∧
      (∀ (t : IntegerType) (n : Int), r.Worth codec.integerCoercion n →
        Lands t n (Codec.decode codec ids (.integer t) (.string bytes)) ∧
          Lands t n (Codec.decode codec ids (.integer t) (.ofNumeral r))) ∧
      ∀ w, Codec.decode codec ids (.float w) (.string bytes) = .ok (.ofBinary64 w r.toBinary64) ∧
        Codec.decode codec ids (.float w) (.ofNumeral r) = .ok (.ofBinary64 w r.toBinary64) := by
  refine ⟨fun i => Value.coerceInteger?_string_eq_some_iff, Value.coerceNumber?_string, ?_, ?_⟩
  · intro hRead t ht
    obtain ⟨hWhole, hFloat⟩ := Codec.numbers_of_no_numeral codec hRead
    have hString : Value.string bytes ≠ .nil := nofun
    exact Codec.decode_numeric_of_none ht (fun _ => hWhole) (fun _ => hFloat) hString
  · intro r hRead
    have hWhole := Codec.wholeNumber?_string h hRead
    have hFloat := Codec.float?_string h hRead
    have hString : Value.string bytes ≠ .nil := nofun
    have hNumeral : Value.ofNumeral r ≠ .nil := Value.ofNumeral_ne_nil
    refine ⟨fun t ht a => ⟨?_, ?_⟩, fun t n hWorth => ?_, fun w => ?_⟩
    · exact Codec.decode_numeric_of_alike ht (fun _ => hWhole.symm) (fun _ => hFloat.symm) hString
        hNumeral
    · exact Codec.decode_numeric_of_alike ht (fun _ => hWhole) (fun _ => hFloat) hNumeral hString
    · obtain ⟨i, rfl, hi⟩ := Codec.wholeNumber?_ofNumeral_of_worth hWorth
      exact ⟨Codec.decode_integer_lands (hWhole.trans hi), Codec.decode_integer_lands hi⟩
    · have hOfNumeral : Codec.float? codec (.ofNumeral r) = some r.toBinary64 :=
        Codec.float?_ofNumeral
      rw [Codec.decode, Codec.decode, hFloat, hOfNumeral]
      exact ⟨rfl, rfl⟩

/-- At bytes, cutting fractions off: "7.5" is 7, sixteen hexadecimal digits wrap to -1, which is out
of range as the number is, and "ten" is no number. -/
theorem strings_decoded_as_numbers_bytes :
    let codec : CodecConfig := { integerCoercion := .truncate, stringToNumber := true }
    let ids : Identities Empty := ⟨nofun, nofun, fun _ => none⟩
    let byte : IntegerType := .unsigned .bits8
    let decode := Codec.decode codec ids (.integer byte)
    codec.stringToNumber = true ∧
      decode (.ofText "7.5") = .ok ⟨7, by decide, by decide⟩ ∧
      decode (.ofText "0xffffffffffffffff") = .error "out-of-range integer -1" ∧
      decode (.integer (-1)) = .error "out-of-range integer -1" ∧
      decode (.ofText "ten") = .error "string" := by
  intro codec ids byte decode
  let half : Binary64 := .ofBits .double 0x401E000000000000
  have hHalf : Numeral.ofBytes? "7.5".toUTF8 = some (.float half) := by decide +kernel
  have hWrapped : Numeral.ofBytes? "0xffffffffffffffff".toUTF8 = some (.integer (-1)) := by
    decide +kernel
  have hWord : Numeral.ofBytes? "ten".toUTF8 = none := by decide +kernel
  have hCut : Codec.floatToInteger? .truncate half = some 7 := by decide +kernel
  have hSeven : (Numeral.float half).Worth codec.integerCoercion 7 :=
    .float (Codec.floatToInteger?_eq_some_iff.mp hCut)
  obtain ⟨-, -, -, hDecimal⟩ := strings_decoded_as_numbers codec rfl ids "7.5".toUTF8
  obtain ⟨-, -, -, hHexadecimal⟩ :=
    strings_decoded_as_numbers codec rfl ids "0xffffffffffffffff".toUTF8
  obtain ⟨-, -, hNone, -⟩ := strings_decoded_as_numbers codec rfl ids "ten".toUTF8
  have hString := ((hDecimal _ hHalf).2.1 byte 7 hSeven).1
  obtain ⟨hText, hNumber⟩ := (hHexadecimal _ hWrapped).2.1 byte (-1) (.integer (-1))
  exact ⟨rfl, hString.inside (by decide) (by decide), hText.outside (.inl (by decide)),
    hNumber.outside (.inl (by decide)), hNone hWord (.integer byte) (.integer byte)⟩

end ScriptBridge
