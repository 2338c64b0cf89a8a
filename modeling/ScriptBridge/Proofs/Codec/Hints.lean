import ScriptBridge.Proofs.Codec.Numerals

/-!
# Hints that name a setting

The hint of a mismatch is chosen by what was expected and the name of what was found. That is enough
for text: a number always decodes once numbers are written. Whether a number or a string is helped
by its setting depends on the value, and the hint is given without a look at it.
-/
namespace ScriptBridge
set_option autoImplicit false

namespace Hint

/-- The settings with the one switched that the hint names, if it names one. -/
def setting? (codec : CodecConfig) : Hint → Option CodecConfig
  | truncateFloats => some { codec with integerCoercion := .truncate }
  | readStrings => some { codec with stringToNumber := true }
  | writeNumbers => some { codec with numberToString := true }
  | _ => none

/-- What makes a value one that the hint is of use for: a float has to be worth a whole number that
the type takes, a string has to stand for a number that it takes. -/
inductive Helps {τ : Type} (codec : CodecConfig) (ids : Identities τ) (t : NativeType τ) :
    Hint → Value → Prop where
  | truncateFloats {x : Binary64} {i : Int64} {a : t.Native}
      (cut : IntegerCoercion.truncate.Takes x i.toInt)
      (decodes : Codec.decode codec ids t (.integer i) = .ok a) :
      Helps codec ids t truncateFloats (.number x)
  | readStrings {bytes : ByteArray} {r : Numeral} {a : t.Native}
      (read : Numeral.ofBytes? bytes = some r)
      (decodes : Codec.decode codec ids t (.ofNumeral r) = .ok a) :
      Helps codec ids t readStrings (.string bytes)
  | writeNumbers (v : Value) : Helps codec ids t writeNumbers v

theorem text_injective {h h' : Hint} (hText : h.text = h'.text) : h = h' := by
  revert hText
  cases h <;> cases h' <;> decide

/-- A hint that names a setting is given for a number where it is no whole one, for a string where a
number is wanted and for a number where text is, and for as long as the setting is off. -/
theorem forMismatch_setting {codec wider : CodecConfig} {kind : Kind} {found : String} {h : Hint}
    (hFor : forMismatch codec kind found = some h) (hSetting : h.setting? codec = some wider) :
    (h = .truncateFloats ∧ kind = .integer ∧ found = "number" ∧ codec.integerCoercion = .exact) ∨
    (h = .readStrings ∧ (kind = .integer ∨ kind = .number) ∧ found = "string" ∧
      codec.stringToNumber = false) ∨
    (h = .writeNumbers ∧ kind = .string ∧ (found = "number" ∨ found = "integer") ∧
      codec.numberToString = false) := by
  unfold forMismatch at hFor
  split at hFor
  · split at hFor
    · rename_i hExact
      cases hFor
      exact .inl ⟨rfl, rfl, rfl, hExact⟩
    · cases hFor
  · split at hFor
    · cases hFor
      cases hSetting
    · rename_i hOff
      cases hFor
      exact .inr (.inl ⟨rfl, .inr rfl, rfl, Bool.eq_false_iff.mpr hOff⟩)
  · split at hFor
    · cases hFor
      cases hSetting
    · rename_i hOff
      cases hFor
      exact .inr (.inl ⟨rfl, .inl rfl, rfl, Bool.eq_false_iff.mpr hOff⟩)
  · split at hFor
    · cases hFor
    · rename_i hOff
      cases hFor
      exact .inr (.inr ⟨rfl, rfl, .inl rfl, Bool.eq_false_iff.mpr hOff⟩)
  · split at hFor
    · cases hFor
    · rename_i hOff
      cases hFor
      exact .inr (.inr ⟨rfl, rfl, .inr rfl, Bool.eq_false_iff.mpr hOff⟩)
  · cases hFor
    cases hSetting
  · cases hFor

theorem setting_ne {codec wider : CodecConfig} {kind : Kind} {found : String} {h : Hint}
    (hFor : forMismatch codec kind found = some h) (hSetting : h.setting? codec = some wider) :
    wider ≠ codec := by
  rintro rfl
  rcases forMismatch_setting hFor hSetting with ⟨rfl, -, -, hOff⟩ | ⟨rfl, -, -, hOff⟩ |
    ⟨rfl, -, -, hOff⟩
  · rw [← Option.some.inj hSetting] at hOff
    cases hOff
  · rw [← Option.some.inj hSetting] at hOff
    cases hOff
  · rw [← Option.some.inj hSetting] at hOff
    cases hOff

end Hint

theorem NativeType.Numeric.of_kind {τ : Type} {t : NativeType τ}
    (h : t.kind = .integer ∨ t.kind = .number) : t.Numeric := by
  induction t with
  | integer t => exact .integer t
  | float w => exact .float w
  | option t ih => exact .option (ih h)
  | _ => rcases h with h | h <;> cases h

namespace Value

theorem number_of_typeName {v : Value} (h : v.typeName = "number") : ∃ x, v = .number x := by
  cases v with
  | number x => exact ⟨x, rfl⟩
  | _ => exact absurd h (by simp only [typeName]; decide)

theorem string_of_typeName {v : Value} (h : v.typeName = "string") :
    ∃ bytes, v = .string bytes := by
  cases v with
  | string bytes => exact ⟨bytes, rfl⟩
  | _ => exact absurd h (by simp only [typeName]; decide)

theorem numberText?_of_typeName {v : Value} (h : v.typeName = "number" ∨ v.typeName = "integer") :
    ∃ s, v.numberText? = some s := by
  cases v with
  | integer i => exact ⟨_, rfl⟩
  | number x => exact ⟨_, rfl⟩
  | _ => exact absurd h (by simp only [typeName]; decide)

end Value

namespace Codec

variable {codec : CodecConfig} {τ : Type} {ids : Identities τ} {t : NativeType τ} {v : Value}
  {found : String}

/-- Where a number is wanted, what does not decode is told by the name of its type, or it is a whole
number that the wanted type does not reach. -/
theorem decode_numeric_error (ht : t.Numeric) (h : decode codec ids t v = .error found) :
    found = v.typeName ∨ ∃ n : Int, found = s!"out-of-range integer {n}" := by
  induction ht with
  | integer t =>
    cases hWhole : wholeNumber? codec v with
    | none =>
      rw [decode_integer_of_none hWhole] at h
      exact .inl (Except.error.inj h).symm
    | some i =>
      rw [decode, hWhole] at h
      simp only at h
      split at h
      · cases h
      · exact .inr ⟨i.toInt, (Except.error.inj h).symm⟩
  | float w =>
    rw [decode] at h
    split at h
    · cases h
    · exact .inl (Except.error.inj h).symm
  | option _ ih => exact ih (decode_option_eq_error_iff.mp h).2

theorem outOfRange_head (n : Int) : (s!"out-of-range integer {n}").toList.head? = some 'o' := by
  rw [String.toList_append, List.head?_append]
  rfl

theorem typeName_of_decode_error (ht : t.Numeric) (hFound : found = "number" ∨ found = "string")
    (h : decode codec ids t v = .error found) : v.typeName = found := by
  rcases decode_numeric_error ht h with hName | ⟨n, hRange⟩
  · exact hName.symm
  · have hHead := outOfRange_head n
    rw [← hRange] at hHead
    rcases hFound with rfl | rfl
    · exact absurd hHead (by decide)
    · exact absurd hHead (by decide)

/-- Cutting fractions off helps a float that is worth a whole number then, if the type takes it. -/
theorem decode_truncated_iff {x : Binary64} (hKind : t.kind = .integer) :
    (∃ a, decode { codec with integerCoercion := .truncate } ids t (.number x) = .ok a) ↔
      ∃ i : Int64, IntegerCoercion.truncate.Takes x i.toInt ∧
        ∃ a, decode codec ids t (.integer i) = .ok a := by
  let wider : CodecConfig := { codec with integerCoercion := .truncate }
  have ht : t.Numeric := .of_kind (.inl hKind)
  have hNumber : Value.number x ≠ .nil := nofun
  -- floats are not asked for at this type
  have hFloat {p : Prop} (h : t.kind = .number) : p := by
    rw [hKind] at h
    cases h
  constructor
  · rintro ⟨a, hDecode⟩
    cases hCut : floatToInteger? .truncate x with
    | none =>
      have hNone : wholeNumber? wider (.number x) = none := hCut
      have hRefused : decode wider ids t (.number x) = .error "number" :=
        decode_numeric_of_none ht (fun _ => hNone) hFloat hNumber
      cases hRefused.symm.trans hDecode
    | some i =>
      have hWhole : wholeNumber? codec (.integer i) = wholeNumber? wider (.number x) := hCut.symm
      have hInteger : Value.integer i ≠ .nil := nofun
      exact ⟨i, floatToInteger?_eq_some_iff.mp hCut, a,
        decode_numeric_of_alike ht (fun _ => hWhole) hFloat hNumber hInteger hDecode⟩
  · rintro ⟨i, hTakes, a, hDecode⟩
    have hCut : floatToInteger? .truncate x = some i := floatToInteger?_eq_some_iff.mpr hTakes
    have hWhole : wholeNumber? wider (.number x) = wholeNumber? codec (.integer i) := hCut
    have hInteger : Value.integer i ≠ .nil := nofun
    exact ⟨a, decode_numeric_of_alike ht (fun _ => hWhole) hFloat hInteger hNumber hDecode⟩

/-- Reading strings as numbers helps a string that stands for one, if the type takes that. -/
theorem decode_read_iff {bytes : ByteArray} (ht : t.Numeric) :
    (∃ a, decode { codec with stringToNumber := true } ids t (.string bytes) = .ok a) ↔
      ∃ r, Numeral.ofBytes? bytes = some r ∧ ∃ a, decode codec ids t (.ofNumeral r) = .ok a := by
  let wider : CodecConfig := { codec with stringToNumber := true }
  have hString : Value.string bytes ≠ .nil := nofun
  cases hRead : Numeral.ofBytes? bytes with
  | none =>
    obtain ⟨hWhole, hFloat⟩ := numbers_of_no_numeral wider hRead
    have hRefused : decode wider ids t (.string bytes) = .error "string" :=
      decode_numeric_of_none ht (fun _ => hWhole) (fun _ => hFloat) hString
    constructor
    · rintro ⟨a, hDecode⟩
      cases hRefused.symm.trans hDecode
    · rintro ⟨r, ⟨⟩, -⟩
  | some r =>
    -- a number is not affected by how strings are read
    have hWhole : wholeNumber? wider (.string bytes) = wholeNumber? codec (.ofNumeral r) := by
      rw [wholeNumber?_string rfl hRead]
      cases r <;> rfl
    have hFloat : float? wider (.string bytes) = float? codec (.ofNumeral r) := by
      rw [float?_string rfl hRead]
      cases r <;> rfl
    constructor
    · rintro ⟨a, hDecode⟩
      refine ⟨r, rfl, a, ?_⟩
      exact decode_numeric_of_alike ht (fun _ => hWhole.symm) (fun _ => hFloat.symm) hString
        Value.ofNumeral_ne_nil hDecode
    · rintro ⟨r, ⟨⟩, a, hDecode⟩
      exact ⟨a, decode_numeric_of_alike ht (fun _ => hWhole) (fun _ => hFloat)
        Value.ofNumeral_ne_nil hString hDecode⟩

/-- Text that does not decode is no text, or a string that is not encoded as text is. -/
theorem decode_text_error (hKind : t.kind = .string) (h : decode codec ids t v = .error found) :
    found = v.typeName ∨ found = "non-UTF-8 string" := by
  induction t with
  | text =>
    cases v with
    | string bytes =>
      have hText : textOf bytes = .error found := h
      unfold textOf at hText
      split at hText
      · cases hText
      · exact .inr (Except.error.inj hText).symm
    | _ =>
      have hText : text codec _ = .error found := h
      unfold text at hText
      simp only at hText
      split at hText
      · cases hText
      · exact .inl (Except.error.inj hText).symm
  | option t ih => exact ih hKind (decode_option_eq_error_iff.mp h).2
  | _ => cases hKind

theorem decode_written {s : String} (hKind : t.kind = .string) (hText : v.numberText? = some s) :
    ∃ a, decode { codec with numberToString := true } ids t v = .ok a := by
  induction t with
  | text =>
    cases v with
    | integer i => exact ⟨_, rfl⟩
    | number x => exact ⟨_, rfl⟩
    | _ => cases hText
  | option t ih =>
    obtain ⟨a, hDecode⟩ := ih hKind
    have hv : v ≠ .nil := by
      rintro rfl
      cases hText
    exact ⟨some a, decode_option_eq_ok_iff.mpr (.inr ⟨hv, a, hDecode, rfl⟩)⟩
  | _ => cases hKind

/-- What the value of a mismatch is, told by the hint it gets: a float, a string or a number. -/
theorem helped_iff {hint : Hint} {wider : CodecConfig} (h : decode codec ids t v = .error found)
    (hFor : Hint.forMismatch codec t.kind found = some hint)
    (hSetting : hint.setting? codec = some wider) :
    (∃ a, decode wider ids t v = .ok a) ↔ hint.Helps codec ids t v := by
  rcases Hint.forMismatch_setting hFor hSetting with ⟨rfl, hKind, rfl, -⟩ |
    ⟨rfl, hKind, rfl, -⟩ | ⟨rfl, hKind, hFound, -⟩
  · obtain ⟨x, rfl⟩ := Value.number_of_typeName
      (typeName_of_decode_error (.of_kind (.inl hKind)) (.inl rfl) h)
    cases hSetting
    refine (decode_truncated_iff hKind).trans ⟨?_, ?_⟩
    · rintro ⟨i, hTakes, a, hDecode⟩
      exact .truncateFloats hTakes hDecode
    · rintro ⟨hTakes, hDecode⟩
      exact ⟨_, hTakes, _, hDecode⟩
  · have ht : t.Numeric := .of_kind hKind
    obtain ⟨bytes, rfl⟩ := Value.string_of_typeName (typeName_of_decode_error ht (.inr rfl) h)
    cases hSetting
    refine (decode_read_iff ht).trans ⟨?_, ?_⟩
    · rintro ⟨r, hRead, a, hDecode⟩
      exact .readStrings hRead hDecode
    · rintro (_ | ⟨hRead, hDecode⟩)
      exact ⟨_, hRead, _, hDecode⟩
  · have hName : v.typeName = found := by
      rcases decode_text_error hKind h with hName | rfl
      · exact hName.symm
      · exact absurd hFound (by decide)
    rw [← hName] at hFound
    obtain ⟨s, hText⟩ := Value.numberText?_of_typeName hFound
    cases hSetting
    exact ⟨fun _ => .writeNumbers v, fun _ => decode_written hKind hText⟩

end Codec

/-- The error of a mismatch may carry the hint of one setting that is off. Switching that on helps
just those values that can be what is wanted: floats that are worth a whole number of the type once
they are cut, strings that stand for a number the type takes, and all numbers where text is. -/
theorem hints_help_exactly {τ : Type} (f : Frame) (ids : Identities τ) (t : NativeType τ)
    (position : Nat) {e : BridgeError} (h : f.decode ids t position = .error e) {hint : Hint}
    {wider : CodecConfig} (hHint : hint.text ∈ e.hints)
    (hSetting : hint.setting? f.codec = some wider) :
    wider ≠ f.codec ∧ ((∃ a, (f.under wider).decode ids t position = .ok a) ↔
      hint.Helps f.codec ids t ((f.value? position).getD .nil)) := by
  unfold Frame.decode at h
  split at h
  · cases h
  · rename_i found hDecode
    cases h
    have hFor : Hint.forMismatch f.codec t.kind found = some hint := by
      obtain ⟨given, hGiven, hText⟩ := Option.map_eq_some_iff.mp (Option.mem_toList.mp hHint)
      rw [hGiven, Hint.text_injective hText]
    have hFrame : (∃ a, (f.under wider).decode ids t position = .ok a) ↔
        ∃ a, Codec.decode wider ids t ((f.value? position).getD .nil) = .ok a :=
      exists_congr fun _ => Frame.decode_eq_ok_iff
    exact ⟨Hint.setting_ne hFor hSetting, hFrame.trans (Codec.helped_iff hDecode hFor hSetting)⟩

theorem hints_help_exactly_fraction :
    let ids : Identities Empty := ⟨nofun, nofun, fun _ => none⟩
    let byte : NativeType Empty := .integer (.unsigned .bits8)
    let half : Binary64 := .ofBits .double 0x401E000000000000
    let f : Frame := { codec := {}, args := [.number half] }
    let wider : CodecConfig := { integerCoercion := .truncate }
    f.decode ids byte 1 = .error (.typeMismatch {} 1 .integer "number") ∧
      ∃ a, (f.under wider).decode ids byte 1 = .ok a := by
  intro ids byte half f wider
  have hFraction : Codec.wholeNumber? {} (.number half) = none := by decide +kernel
  have hArgs : f.args = [] ++ [.number half] := rfl
  have hMismatch : f.decode ids byte 1 = .error (.typeMismatch {} 1 .integer "number") :=
    Frame.decode_of_error hArgs (Codec.decode_integer_of_none hFraction)
  have hHint : Hint.truncateFloats.text ∈
      (BridgeError.typeMismatch {} 1 .integer "number").hints := by decide
  have hCut : Codec.floatToInteger? .truncate half = some 7 := by decide +kernel
  have hHelps : Hint.truncateFloats.Helps {} ids byte (.number half) :=
    .truncateFloats (Codec.floatToInteger?_eq_some_iff.mp hCut) rfl
  obtain ⟨-, hHelped⟩ := hints_help_exactly f ids byte 1 hMismatch hHint rfl
  exact ⟨hMismatch, hHelped.mpr hHelps⟩

/-- The NaN gets a hint that does not help it, and so does the string "ten". -/
theorem hints_without_help :
    let ids : Identities Empty := ⟨nofun, nofun, fun _ => none⟩
    let integer : NativeType Empty := .integer (.signed .bits64)
    let nan : Frame := { codec := {}, args := [.number (.nan .double false)] }
    let word : Frame := { codec := {}, args := [.ofText "ten"] }
    let mismatch := BridgeError.typeMismatch {} 1 .integer
    (nan.decode ids integer 1 = .error (mismatch "number") ∧
      Hint.truncateFloats.text ∈ (mismatch "number").hints ∧
      ¬ ∃ a, (nan.under { integerCoercion := .truncate }).decode ids integer 1 = .ok a) ∧
    word.decode ids integer 1 = .error (mismatch "string") ∧
      Hint.readStrings.text ∈ (mismatch "string").hints ∧
      ¬ ∃ a, (word.under { stringToNumber := true }).decode ids integer 1 = .ok a := by
  intro ids integer nan word mismatch
  have hNaN : Codec.wholeNumber? { integerCoercion := .truncate } (.number (.nan .double false)) =
      none := by decide
  have hWord : Codec.wholeNumber? { stringToNumber := true } (.ofText "ten") = none := by
    decide +kernel
  refine ⟨⟨rfl, by decide, ?_⟩, rfl, by decide, ?_⟩
  · rintro ⟨a, hDecode⟩
    cases (Codec.decode_integer_of_none hNaN).symm.trans (Frame.decode_eq_ok_iff.mp hDecode)
  · rintro ⟨a, hDecode⟩
    cases (Codec.decode_integer_of_none hWord).symm.trans (Frame.decode_eq_ok_iff.mp hDecode)

end ScriptBridge
