import ScriptBridge.Proofs.Codec.Hints

/-!
# Strings that are said to be no numbers

Where strings are read as numbers, one that is refused may be said not to be a number. That goes by
the name of what was found, which is the same for a string that stands for no number and for one
whose number is a float that is worth no whole number, where a whole number is wanted. At the types
of floats it is true.
-/
namespace ScriptBridge
set_option autoImplicit false

namespace Hint

variable {codec : CodecConfig} {kind : Kind} {found : String}

theorem mem_hints_iff {h : Hint} {index : Nat} :
    h.text ∈ (BridgeError.typeMismatch codec index kind found).hints ↔
      forMismatch codec kind found = some h := by
  rw [BridgeError.typeMismatch, Option.mem_toList, Option.map_eq_some_iff]
  constructor
  · rintro ⟨given, hGiven, hText⟩
    rw [hGiven, text_injective hText]
  · intro hGiven
    exact ⟨h, hGiven, rfl⟩

theorem forMismatch_string (hKind : kind = .integer ∨ kind = .number)
    (hStrings : codec.stringToNumber = true) :
    forMismatch codec kind "string" = some notNumeric := by
  rcases hKind with rfl | rfl
  · exact congrArg some (if_pos hStrings)
  · exact congrArg some (if_pos hStrings)

theorem found_of_notNumeric (h : forMismatch codec kind found = some notNumeric) :
    found = "string" := by
  unfold forMismatch at h
  split at h
  · split at h <;> cases h
  · rfl
  · rfl
  · split at h <;> cases h
  · split at h <;> cases h
  · cases h
  · cases h

end Hint

theorem NativeType.Numeric.kind {τ : Type} {t : NativeType τ} (ht : t.Numeric) :
    t.kind = .integer ∨ t.kind = .number := by
  induction ht with
  | integer t => exact .inl rfl
  | float w => exact .inr rfl
  | option _ ih => exact ih

namespace Codec

variable {codec : CodecConfig} {bytes : ByteArray}

theorem wholeNumber?_string_eq_none_iff (hStrings : codec.stringToNumber = true) :
    wholeNumber? codec (.string bytes) = none ↔
      Numeral.ofBytes? bytes = none ∨ ∃ x, Numeral.ofBytes? bytes = some (.float x) ∧
        ∀ n, ¬ codec.integerCoercion.Takes x n := by
  cases hRead : Numeral.ofBytes? bytes with
  | none => exact ⟨fun _ => .inl rfl, fun _ => (numbers_of_no_numeral codec hRead).1⟩
  | some r =>
    rw [wholeNumber?_string hStrings hRead]
    cases r with
    | integer i =>
      constructor
      · intro h
        cases h
      · rintro (h | ⟨x, h, -⟩) <;> cases h
    | float x =>
      constructor
      · intro hNone
        refine .inr ⟨x, rfl, fun n hTakes => ?_⟩
        obtain ⟨i, -, hSome⟩ := floatToInteger?_of_takes hTakes
        cases hSome.symm.trans hNone
      · rintro (h | ⟨y, h, hNot⟩)
        · cases h
        · cases h
          exact floatToInteger?_eq_none hNot

theorem float?_string_eq_none_iff (hStrings : codec.stringToNumber = true) :
    float? codec (.string bytes) = none ↔ Numeral.ofBytes? bytes = none := by
  rw [float?, if_pos hStrings, Value.coerceNumber?_string, Option.map_eq_none_iff]

variable {τ : Type} {ids : Identities τ} {t : NativeType τ} {found : String}

/-- A string that is refused where a number is wanted is told as a string if there is no number of
the wanted kind in it; otherwise the number is told, which is out of range. -/
theorem found_string_iff (ht : t.Numeric) (hStrings : codec.stringToNumber = true)
    (h : decode codec ids t (.string bytes) = .error found) :
    found = "string" ↔ Numeral.ofBytes? bytes = none ∨ t.kind = .integer ∧
      ∃ x, Numeral.ofBytes? bytes = some (.float x) ∧ ∀ n, ¬ codec.integerCoercion.Takes x n := by
  induction ht with
  | integer t =>
    have hKind : (NativeType.integer t : NativeType τ).kind = .integer := rfl
    rw [eq_true hKind, true_and, ← wholeNumber?_string_eq_none_iff hStrings]
    cases hWhole : wholeNumber? codec (.string bytes) with
    | none =>
      rw [decode_integer_of_none hWhole] at h
      exact ⟨fun _ => rfl, fun _ => (Except.error.inj h).symm⟩
    | some i =>
      refine ⟨fun hFound => ?_, fun hNone => by cases hNone⟩
      rw [decode, hWhole] at h
      simp only at h
      split at h
      · cases h
      · have hHead := outOfRange_head i.toInt
        rw [Except.error.inj h, hFound] at hHead
        exact absurd hHead (by decide)
  | float w =>
    have hKind : (NativeType.float w : NativeType τ).kind ≠ .integer := by
      simp [NativeType.kind]
    rw [eq_false hKind, false_and, or_false, ← float?_string_eq_none_iff hStrings]
    rw [decode] at h
    split at h
    · cases h
    · rename_i hNone
      exact ⟨fun _ => hNone, fun _ => (Except.error.inj h).symm⟩
  | option _ ih => exact ih (decode_option_eq_error_iff.mp h).2

end Codec

/-- A string that is refused where a number is wanted, is said to be no number if it stands for none
or, where a whole number is wanted, for a float that is worth none: one with a fraction that is not
cut off, or one beyond 64 bits. -/
theorem notNumeric_told_exactly {τ : Type} (f : Frame) (ids : Identities τ) {t : NativeType τ}
    (ht : t.Numeric) (position : Nat) (hStrings : f.codec.stringToNumber = true)
    {bytes : ByteArray} (hValue : f.value? position = some (.string bytes)) {e : BridgeError}
    (h : f.decode ids t position = .error e) :
    Hint.notNumeric.text ∈ e.hints ↔ Numeral.ofBytes? bytes = none ∨ t.kind = .integer ∧
      ∃ x, Numeral.ofBytes? bytes = some (.float x) ∧ ∀ n, ¬ f.codec.integerCoercion.Takes x n := by
  unfold Frame.decode at h
  rw [hValue, Option.getD_some] at h
  split at h
  · cases h
  · rename_i found hDecode
    cases h
    rw [Hint.mem_hints_iff, ← Codec.found_string_iff ht hStrings hDecode]
    constructor
    · exact Hint.found_of_notNumeric
    · rintro rfl
      exact Hint.forMismatch_string ht.kind hStrings

theorem notNumeric_told_exactly_fraction :
    let codec : CodecConfig := { stringToNumber := true }
    let ids : Identities Empty := ⟨nofun, nofun, fun _ => none⟩
    let integer : NativeType Empty := .option (.integer (.signed .bits64))
    let half : Binary64 := .ofBits .double 0x401E000000000000
    let f : Frame := { codec := codec, args := [.ofText "7.5"] }
    integer.Numeric ∧ codec.stringToNumber = true ∧ f.value? 1 = some (.string "7.5".toUTF8) ∧
      Numeral.ofBytes? "7.5".toUTF8 = some (.float half) ∧
      ∃ e, f.decode ids integer 1 = .error e ∧ Hint.notNumeric.text ∈ e.hints := by
  intro codec ids integer half f
  have hRead : Numeral.ofBytes? "7.5".toUTF8 = some (.float half) := by decide +kernel
  have hRefused : Codec.floatToInteger? .exact half = none := by decide +kernel
  have hWorthNone (n : Int) : ¬ codec.integerCoercion.Takes half n := by
    intro hTakes
    obtain ⟨i, -, hSome⟩ := Codec.floatToInteger?_of_takes hTakes
    cases hSome.symm.trans hRefused
  have hNone : Codec.wholeNumber? codec (.string "7.5".toUTF8) = none :=
    (Codec.wholeNumber?_string_eq_none_iff rfl).mpr (.inr ⟨half, hRead, hWorthNone⟩)
  have ht : integer.Numeric := .option (.integer _)
  have hDecode : Codec.decode codec ids integer (.string "7.5".toUTF8) = .error "string" :=
    Codec.decode_numeric_of_none ht (fun _ => hNone) nofun nofun
  have hArgs : f.args = [] ++ [.ofText "7.5"] := rfl
  have hMismatch := Frame.decode_of_error hArgs hDecode
  have hTold := notNumeric_told_exactly f ids ht 1 rfl rfl hMismatch
  exact ⟨ht, rfl, rfl, hRead, _, hMismatch, hTold.mpr (.inr ⟨rfl, half, hRead, hWorthNone⟩)⟩

/-- The strings "7.5" and "1e20" are said to be no numbers, and stand for some: a fraction, and a
number beyond 64 bits. -/
theorem numerals_told_no_numbers :
    let ids : Identities Empty := ⟨nofun, nofun, fun _ => none⟩
    let integer : NativeType Empty := .integer (.signed .bits64)
    let exact : CodecConfig := { stringToNumber := true }
    let cutting : CodecConfig := { stringToNumber := true, integerCoercion := .truncate }
    let fraction : Frame := { codec := exact, args := [.ofText "7.5"] }
    let large : Frame := { codec := cutting, args := [.ofText "1e20"] }
    (fraction.decode ids integer 1 = .error (.typeMismatch exact 1 .integer "string") ∧
      Hint.notNumeric.text ∈ (BridgeError.typeMismatch exact 1 .integer "string").hints ∧
      Numeral.ofBytes? "7.5".toUTF8 ≠ none) ∧
    large.decode ids integer 1 = .error (.typeMismatch cutting 1 .integer "string") ∧
      Hint.notNumeric.text ∈ (BridgeError.typeMismatch cutting 1 .integer "string").hints ∧
      Numeral.ofBytes? "1e20".toUTF8 ≠ none := by
  intro ids integer exact cutting fraction large
  have hFraction : Codec.wholeNumber? exact (.ofText "7.5") = none := by decide +kernel
  have hLarge : Codec.wholeNumber? cutting (.ofText "1e20") = none := by decide +kernel
  have hFractionReads : Numeral.ofBytes? "7.5".toUTF8 ≠ none := by decide +kernel
  have hLargeReads : Numeral.ofBytes? "1e20".toUTF8 ≠ none := by decide +kernel
  have hFractionArgs : fraction.args = [] ++ [.ofText "7.5"] := rfl
  have hLargeArgs : large.args = [] ++ [.ofText "1e20"] := rfl
  have hFractionRefused :
      Codec.decode fraction.codec ids integer (.ofText "7.5") = .error "string" :=
    Codec.decode_integer_of_none hFraction
  have hLargeRefused : Codec.decode large.codec ids integer (.ofText "1e20") = .error "string" :=
    Codec.decode_integer_of_none hLarge
  have hFractionTold := Frame.decode_of_error hFractionArgs hFractionRefused
  have hLargeTold := Frame.decode_of_error hLargeArgs hLargeRefused
  exact ⟨⟨hFractionTold, by decide, hFractionReads⟩, hLargeTold, by decide, hLargeReads⟩

end ScriptBridge
