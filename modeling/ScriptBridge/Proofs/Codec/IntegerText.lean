import Mathlib.Data.List.TakeWhile
import ScriptBridge.Proofs.Codec.Numerals

/-!
# Text of whole numbers

What the runtime writes for a whole number is a sign and decimal digits, and these are a numeral for
the same number. The least number has no positive counterpart; the sign is taken into account before
the range is looked at. So whole numbers survive being text.
-/
namespace ScriptBridge
set_option autoImplicit false

namespace Numeral

variable {c : Char} {s digits : List Char} {i : Int64}

theorem isDecimal_iff : isDecimal c = true ↔ 48 ≤ c.toNat ∧ c.toNat ≤ 57 := by
  rw [isDecimal, Bool.and_eq_true, decide_eq_true_iff, decide_eq_true_iff]
  exact Iff.rfl

theorem isDecimal_of_mem_toDigits {n : Nat} (h : c ∈ Nat.toDigits 10 n) : isDecimal c = true :=
  Nat.isDigit_of_mem_toDigits (by decide) (by decide) h

theorem positional_eq_ofDigitChars (h : ∀ c ∈ digits, isDecimal c = true) :
    positional 10 digits = Nat.ofDigitChars 10 digits 0 := by
  rw [positional, Nat.ofDigitChars]
  refine List.foldl_ext _ _ 0 fun n c hc => ?_
  rw [digitValue, if_pos (h c hc), Nat.mul_comm]

theorem positional_toDigits (n : Nat) : positional 10 (Nat.toDigits 10 n) = n := by
  rw [positional_eq_ofDigitChars fun c => isDecimal_of_mem_toDigits]
  exact Nat.ofDigitChars_toDigits (by decide) (by decide)

theorem isBlank_of_isDecimal (h : isDecimal c = true) : isBlank c = false := by
  obtain ⟨hLeast, -⟩ := isDecimal_iff.mp h
  have hSpace : c ≠ ' ' := by
    rintro rfl
    exact absurd h (by decide)
  have hControl : ¬ c ≤ '\r' := by
    intro hLow
    have hLow : c.toNat ≤ 13 := hLow
    omega
  simp [isBlank, hSpace, hControl]

theorem dropWhile_isBlank (h : ∀ c ∈ s, isBlank c = false) : s.dropWhile isBlank = s := by
  refine List.dropWhile_eq_self_iff.mpr fun hLength => ?_
  rw [h _ (List.getElem_mem hLength)]
  exact Bool.false_ne_true

theorem trim_eq_self (h : ∀ c ∈ s, isBlank c = false) : trim s = s := by
  have hReverse (c : Char) (hc : c ∈ s.reverse) : isBlank c = false := h c (List.mem_reverse.mp hc)
  rw [trim, dropWhile_isBlank h, dropWhile_isBlank hReverse, List.reverse_reverse]

/-- Digits with a minus before them if they are those of a negative number. -/
def signed (negative : Bool) (digits : List Char) : List Char :=
  if negative then '-' :: digits else digits

theorem mem_signed {negative : Bool} (h : c ∈ signed negative digits) : c = '-' ∨ c ∈ digits := by
  cases negative with
  | false => exact .inr h
  | true => exact List.mem_cons.mp h

theorem splitSign_signed (negative : Bool) (h : ∀ c ∈ digits, isDecimal c = true) :
    splitSign (signed negative digits) = (negative, digits) := by
  cases negative with
  | true => rfl
  | false =>
    change splitSign digits = _
    unfold splitSign
    split
    · exact absurd (h '-' List.mem_cons_self) (by decide)
    · exact absurd (h '+' List.mem_cons_self) (by decide)
    · rfl

/-- A sign and digits are a numeral for the whole number they have the value of, if that has 64
bits. -/
theorem ofChars?_signed {negative : Bool} (hNotNil : digits ≠ [])
    (h : ∀ c ∈ digits, isDecimal c = true)
    (hValue : i.toInt = if negative then -(positional 10 digits : Int) else positional 10 digits) :
    ofChars? (signed negative digits) = some (.integer i) := by
  have hBlank (c : Char) (hc : c ∈ signed negative digits) : isBlank c = false := by
    rcases mem_signed hc with rfl | hc
    · decide
    · exact isBlank_of_isDecimal (h c hc)
  -- the letters that mark hexadecimal numerals are no decimal digits
  have hLetter (c : Char) (hc : isDecimal c = false) : c ∉ digits := by
    intro hMem
    rw [h c hMem] at hc
    cases hc
  have hAll : digits ≠ [] ∧ digits.all isDecimal = true := ⟨hNotNil, List.all_eq_true.mpr h⟩
  rw [ofChars?, trim_eq_self hBlank, splitSign_signed negative h]
  split
  · rename_i hSplit
    cases hSplit
    exact absurd (List.mem_cons_of_mem _ List.mem_cons_self) (hLetter 'x' (by decide))
  · rename_i hSplit
    cases hSplit
    exact absurd (List.mem_cons_of_mem _ List.mem_cons_self) (hLetter 'X' (by decide))
  · rename_i hSplit
    cases hSplit
    rw [decimal?, if_pos hAll, int64?_eq_some_iff.mpr hValue]

theorem toList_toString (n : Int) :
    (toString n).toList = signed (decide (n < 0)) (Nat.toDigits 10 n.natAbs) := by
  rw [Int.toString_eq_repr, Int.repr_eq_if]
  split
  · have hAbs : n.toNat = n.natAbs := by omega
    rw [decide_eq_false (by omega), Nat.toList_repr, hAbs]
    rfl
  · have hAbs : (-n).toNat = n.natAbs := by omega
    rw [decide_eq_true (by omega), String.toList_append, Nat.toList_repr, hAbs]
    rfl

section Bytes

theorem utf8EncodeChar_of_ascii (h : c.toNat < 128) :
    String.utf8EncodeChar c = [c.val.toUInt8] := by
  have hVal : c.val ≤ 127 := by
    rw [UInt32.le_iff_toNat_le]
    exact Nat.le_of_lt_succ h
  exact String.utf8EncodeChar_eq_singleton (if_pos hVal)

theorem ofNat_toUInt8_of_ascii (h : c.toNat < 128) : Char.ofNat c.val.toUInt8.toNat = c := by
  have hByte : c.val.toUInt8.toNat = c.toNat := by
    rw [UInt32.toNat_toUInt8]
    exact Nat.mod_eq_of_lt (Nat.lt_of_lt_of_le h (by decide))
  rw [hByte, Char.ofNat_toNat]

theorem chars_utf8Encode (h : ∀ c ∈ s, c.toNat < 128) :
    (s.utf8Encode.data.toList.map fun b => Char.ofNat b.toNat) = s := by
  induction s with
  | nil => rw [List.utf8Encode_nil]; rfl
  | cons c s ih =>
    have hRest := ih fun d hd => h d (List.mem_cons_of_mem _ hd)
    have hFirst := ofNat_toUInt8_of_ascii (h c List.mem_cons_self)
    rw [List.utf8Encode_cons, List.utf8Encode_singleton,
      utf8EncodeChar_of_ascii (h c List.mem_cons_self)]
    simp only [ByteArray.data_append, Array.toList_append, List.data_toByteArray, List.map_cons,
      hFirst, hRest, List.singleton_append]

end Bytes

theorem ofBytes?_toString (i : Int64) : ofBytes? (toString i.toInt).toUTF8 = some (.integer i) := by
  have hDigits (c : Char) (hc : c ∈ Nat.toDigits 10 i.toInt.natAbs) : isDecimal c = true :=
    isDecimal_of_mem_toDigits hc
  have hAscii : ∀ c ∈ (toString i.toInt).toList, c.toNat < 128 := by
    intro c hc
    rw [toList_toString] at hc
    rcases mem_signed hc with rfl | hc
    · decide
    · have := isDecimal_iff.mp (hDigits c hc)
      omega
  have hValue : i.toInt = if decide (i.toInt < 0) then
      -(positional 10 (Nat.toDigits 10 i.toInt.natAbs) : Int)
      else positional 10 (Nat.toDigits 10 i.toInt.natAbs) := by
    rw [positional_toDigits]
    simp only [decide_eq_true_eq]
    split <;> omega
  rw [ofBytes?, String.toUTF8_eq_toByteArray, ← String.utf8Encode_toList, chars_utf8Encode hAscii,
    toList_toString]
  exact ofChars?_signed Nat.toDigits_ne_nil hDigits hValue

end Numeral

/-- Whole numbers survive being text: what scripts are shown of one is what it decodes to as text,
and stands for the same number. Read back it is the number at the integer types that have it, and at
the others it is out of range as the number is; at the types of floats it is the float that the
number is. How fractions are treated has no part in it. -/
theorem integers_written_and_read {N : Natives} (s : State N) {τ : Type} (ids : Identities τ)
    (i : Int64) {writing reading : CodecConfig} (hWriting : writing.numberToString = true)
    (hReading : reading.stringToNumber = true) :
    let text := toString i.toInt
    s.display (.integer i) = .ok text.toUTF8 ∧
    Codec.decode writing ids .text (.integer i) = .ok text ∧
    ∃ v, Codec.encode (NativeType.text : NativeType τ) text = .ok v ∧
      v.toNumeral? = some (.integer i) ∧
      (∀ t : IntegerType, Lands t i.toInt (Codec.decode reading ids (.integer t) v) ∧
        Codec.decode reading ids (.integer t) v =
          Codec.decode reading ids (.integer t) (.integer i)) ∧
      ∀ w, ∃ x, Codec.decode reading ids (.float w) v = .ok x ∧
        Codec.decode reading ids (.float w) (.integer i) = .ok x := by
  intro text
  have hRead : Numeral.ofBytes? text.toUTF8 = some (.integer i) := Numeral.ofBytes?_toString i
  have hWhole : Codec.wholeNumber? reading (.ofText text) = some i :=
    Codec.wholeNumber?_string hReading hRead
  have hFloat : Codec.float? reading (.ofText text) = Codec.float? reading (.integer i) :=
    Codec.float?_string hReading hRead
  have hWritten : Codec.text writing (.integer i) = .ok text := by
    simp only [Codec.text, if_pos hWriting, Value.numberText?]
    rfl
  refine ⟨rfl, hWritten, .ofText text, rfl, hRead, fun t => ⟨?_, ?_⟩, fun w => ?_⟩
  · exact Codec.decode_integer_lands hWhole
  · rw [Codec.decode, Codec.decode, hWhole]
    rfl
  · refine ⟨_, ?_, rfl⟩
    rw [Codec.decode, hFloat]
    rfl

/-- The least whole number, whose magnitude scripts do not have: back from its text it is the least
one of 64 bits, and no byte. -/
theorem integers_written_and_read_least :
    let s := Sample.accountHost "deposit" Sample.deposit
    let reading : CodecConfig := { stringToNumber := true }
    let least := "-9223372036854775808"
    ({} : CodecConfig).numberToString = true ∧ reading.stringToNumber = true ∧
      Codec.decode {} s.identities .text (.integer Int64.minValue) = .ok least ∧
      Codec.decode reading s.identities (.integer (.signed .bits64)) (.ofText least) =
        .ok ⟨-9223372036854775808, by decide, by decide⟩ ∧
      Codec.decode reading s.identities (.integer (.unsigned .bits8)) (.ofText least) =
        .error "out-of-range integer -9223372036854775808" := by
  intro s reading least
  have hText : toString Int64.minValue.toInt = least := by decide +kernel
  have hWriting : ({} : CodecConfig).numberToString = true := rfl
  have hReading : reading.stringToNumber = true := rfl
  obtain ⟨-, hWritten, v, hEncode, -, hIntegers, -⟩ :=
    integers_written_and_read s s.identities Int64.minValue hWriting hReading
  rw [hText] at hWritten hEncode
  obtain rfl := Except.ok.inj hEncode
  obtain ⟨hWide, -⟩ := hIntegers (.signed .bits64)
  obtain ⟨hByte, -⟩ := hIntegers (.unsigned .bits8)
  exact ⟨hWriting, hReading, hWritten, hWide.inside (by decide) (by decide),
    hByte.outside (.inl (by decide))⟩

end ScriptBridge
