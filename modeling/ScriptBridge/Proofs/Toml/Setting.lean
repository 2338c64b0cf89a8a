import ScriptBridge.Proofs.Codec.IntegerText
import ScriptBridge.Proofs.Toml.Quoted
import ScriptBridge.Toml.Printer
import ScriptBridge.Toml.Reader

/-!
# Settings read back

The value that each kind of setting has as TOML, and that the reader finds it at the start of what
is written for the setting. Whole numbers keep theirs within 64 bits.
-/
namespace ScriptBridge.Toml
set_option autoImplicit false

variable {c : Char} {w s rest : List Char}

/-- What stands at the start of a text up to the first character of another kind. -/
theorem takeWhile_append_stop {p : Char → Bool} (hWord : ∀ c ∈ w, p c = true)
    (hStop : ∀ c ∈ rest.head?, p c = false) : (w ++ rest).takeWhile p = w := by
  rw [List.takeWhile_append_of_pos hWord]
  match rest with
  | [] => rw [List.takeWhile_nil, List.append_nil]
  | c :: rest =>
    have hNot : ¬ p c = true := Bool.eq_false_iff.mp (hStop c rfl)
    rw [List.takeWhile_cons_of_neg hNot, List.append_nil]

theorem dropWhile_append_stop {p : Char → Bool} (hWord : ∀ c ∈ w, p c = true)
    (hStop : ∀ c ∈ rest.head?, p c = false) : (w ++ rest).dropWhile p = rest := by
  rw [List.dropWhile_append_of_pos hWord]
  match rest with
  | [] => rfl
  | c :: rest => exact List.dropWhile_cons_of_neg (Bool.eq_false_iff.mp (hStop c rfl))

section Digits

theorem ungrouped?_decimal (h : ∀ c ∈ s, isDecimal c = true) (hSome : s ≠ []) :
    ungrouped? isDecimal s = some s := by
  induction s with
  | nil => exact absurd rfl hSome
  | cons c s ih =>
    obtain ⟨hFirst, hRest⟩ := List.forall_mem_cons.mp h
    match s with
    | [] => rw [ungrouped?, if_pos hFirst]
    | d :: s =>
      have hDigit : d ≠ '_' := by
        rintro rfl
        cases hRest '_' List.mem_cons_self
      have hOn := ih hRest (List.cons_ne_nil d s)
      unfold ungrouped?
      split
      · contradiction
      · rename_i hEq
        cases hEq
      · rename_i hEq
        cases hEq
        exact absurd rfl hDigit
      · rename_i hEq
        cases hEq
        rw [if_pos hFirst, hOn]
        rfl

theorem head?_toDigits {n : Nat} (h : 0 < n) : (Nat.toDigits 10 n).head? ≠ some '0' := by
  induction n using Nat.strongRecOn with
  | ind n ih =>
    by_cases hSmall : n < 10
    · rw [Nat.toDigits_of_lt_base hSmall]
      have hDigits : ∀ n < 10, 0 < n → [n.digitChar].head? ≠ some '0' := by decide
      exact hDigits n hSmall h
    · rw [Nat.toDigits_of_base_le (by decide) (by omega),
        List.head?_append_of_ne_nil _ Nat.toDigits_ne_nil]
      exact ih (n / 10) (by omega) (by omega)

theorem decimalDigits?_toDigits (n : Nat) :
    decimalDigits? (Nat.toDigits 10 n) = some (Nat.toDigits 10 n) := by
  by_cases hZero : n = 0
  · subst hZero
    rfl
  · have hHead := head?_toDigits (Nat.pos_of_ne_zero hZero)
    unfold decimalDigits?
    split
    · rfl
    · rename_i h
      rw [h] at hHead
      exact absurd rfl hHead
    · exact ungrouped?_decimal (fun c => Numeral.isDecimal_of_mem_toDigits) Nat.toDigits_ne_nil

theorem not_mem_of_isDecimal (h : ∀ c ∈ s, isDecimal c = true) (hc : isDecimal c = false) :
    c ∉ s := by
  intro hMem
  rw [h c hMem] at hc
  cases hc

theorem integer?_toDigits {n : Nat} (h : n < 2 ^ 63) :
    integer? (Nat.toDigits 10 n) = some (Int64.ofNat n) := by
  have hDecimal : ∀ c ∈ Nat.toDigits 10 n, isDecimal c = true :=
    fun c => Numeral.isDecimal_of_mem_toDigits
  have hLetter (c : Char) (hc : isDecimal c = false) := not_mem_of_isDecimal hDecimal hc
  have hSplit : Numeral.splitSign (Nat.toDigits 10 n) = (false, Nat.toDigits 10 n) :=
    Numeral.splitSign_signed false hDecimal
  unfold integer?
  split
  · rename_i hForm
    exact absurd (hForm ▸ by simp) (hLetter 'x' (by decide))
  · rename_i hForm
    exact absurd (hForm ▸ by simp) (hLetter 'o' (by decide))
  · rename_i hForm
    exact absurd (hForm ▸ by simp) (hLetter 'b' (by decide))
  · simp only [hSplit, decimalDigits?_toDigits]
    change int64? (positional 10 (Nat.toDigits 10 n) : Int) = _
    rw [Numeral.positional_toDigits]
    exact int64?_eq_some_iff.mpr (Int64.toInt_ofNat_of_lt h)

/-- Digits alone are no date and no time of day, which have other marks between them. -/
theorem afterDate?_decimal (h : ∀ c ∈ s, isDecimal c = true) : afterDate? s = none := by
  unfold afterDate?
  split
  · exact absurd (by simp) (not_mem_of_isDecimal h (c := '-') (by decide))
  · rfl

theorem afterClock?_decimal (h : ∀ c ∈ s, isDecimal c = true) : afterClock? s = none := by
  unfold afterClock?
  split
  · exact absurd (by simp) (not_mem_of_isDecimal h (c := ':') (by decide))
  · rfl

theorem word?_toDigits {n : Nat} (h : n < 2 ^ 63) :
    word? (Nat.toDigits 10 n) = some (.integer (Int64.ofNat n)) := by
  have hDecimal : ∀ c ∈ Nat.toDigits 10 n, isDecimal c = true :=
    fun c => Numeral.isDecimal_of_mem_toDigits
  have hTrue : Nat.toDigits 10 n ≠ ['t', 'r', 'u', 'e'] := by
    intro hEq
    exact absurd (hEq ▸ by simp) (not_mem_of_isDecimal hDecimal (c := 't') (by decide))
  have hFalse : Nat.toDigits 10 n ≠ ['f', 'a', 'l', 's', 'e'] := by
    intro hEq
    exact absurd (hEq ▸ by simp) (not_mem_of_isDecimal hDecimal (c := 'f') (by decide))
  have hDateTime : isDateTime (Nat.toDigits 10 n) = false := by
    rw [isDateTime, afterDate?_decimal hDecimal, afterClock?_decimal hDecimal]
    rfl
  rw [word?, if_neg hTrue, if_neg hFalse, hDateTime, integer?_toDigits h]
  rfl

end Digits

/-! ## Values -/

namespace Setting

/-- The value that is written for a setting. -/
def value : Setting → Value
  | flag b => .boolean b
  | count n => .integer (Int64.ofNat n)
  | text s => .text s
  | texts items => .array (items.map .text)

def Fits (v : Setting) : Prop := ∀ n, v = count n → n < 2 ^ 63

end Setting

section Values

variable {depth : Nat} {v : Value}

theorem stringText_eq_cons (s : List Char) :
    ∃ q t, stringText s = q :: t ∧ (q = '"' ∨ q = '\'') := by
  rw [stringText]
  cases Style.choose s with
  | basic => exact ⟨_, _, rfl, .inl rfl⟩
  | literal => exact ⟨_, _, rfl, .inr rfl⟩
  | multilineBasic => exact ⟨_, _, rfl, .inl rfl⟩
  | multilineLiteral => exact ⟨_, _, rfl, .inr rfl⟩

theorem skipGap_stringText (s rest : List Char) :
    skipGap false (stringText s ++ rest) = stringText s ++ rest := by
  obtain ⟨q, t, hText, rfl | rfl⟩ := stringText_eq_cons s <;> rw [hText] <;> rfl

theorem value?_text (s : String) (hRest : NoQuote rest) :
    value? depth (stringText s.toList ++ rest) = some (.text s, rest) := by
  have hScalar : scalar? (stringText s.toList ++ rest) = some (.text s, rest) := by
    rw [scalar?, string?_stringText s.toList hRest]
    simp only [String.ofList_toList]
  rw [← hScalar]
  obtain ⟨q, t, hText, rfl | rfl⟩ := stringText_eq_cons s.toList <;>
    rw [hText] <;> cases depth <;> rfl

/-- A word is the value it stands for, up to the first character that no word has. -/
theorem value?_word (hWord : ∀ c ∈ w, isWord c = true)
    (hStop : ∀ c ∈ rest.head?, isWord c = false) (hDate : isDate w = false)
    (h : word? w = some v) : value? depth (w ++ rest) = some (v, rest) := by
  match w with
  | [] => cases h
  | c :: w =>
    have hFirst := hWord c List.mem_cons_self
    have hOpening : c ≠ '[' ∧ c ≠ '\x7b' ∧ c ≠ '"' ∧ c ≠ '\'' := by
      refine ⟨?_, ?_, ?_, ?_⟩ <;> rintro rfl <;> cases hFirst
    have hString : string? (c :: w ++ rest) = none := by
      simp [string?, hOpening]
    have hScalar : value? depth (c :: w ++ rest) = scalar? (c :: w ++ rest) := by
      cases depth <;> simp [value?, hOpening]
    rw [hScalar, scalar?, hString]
    simp only [takeWhile_append_stop hWord hStop, dropWhile_append_stop hWord hStop, h, hDate]
    rfl

theorem value?_flag (b : Bool) (hStop : ∀ c ∈ rest.head?, isWord c = false) :
    value? depth ((Setting.flag b).chars ++ rest) = some (.boolean b, rest) := by
  cases b <;> exact value?_word (List.all_eq_true.mp (by decide)) hStop (by decide) rfl

theorem isWord_of_isDecimal (h : isDecimal c = true) : isWord c = true := by
  have hDigit : c.isDigit = true := h
  simp [isWord, Char.isAlphanum, hDigit]

theorem value?_count {n : Nat} (h : n < 2 ^ 63) (hStop : ∀ c ∈ rest.head?, isWord c = false) :
    value? depth ((Setting.count n).chars ++ rest) = some (.integer (Int64.ofNat n), rest) := by
  have hDecimal : ∀ c ∈ Nat.toDigits 10 n, isDecimal c = true :=
    fun c => Numeral.isDecimal_of_mem_toDigits
  rw [Setting.chars, Nat.toList_repr]
  refine value?_word (fun c hc => isWord_of_isDecimal (hDecimal c hc)) hStop ?_ (word?_toDigits h)
  rw [isDate, afterDate?_decimal hDecimal]
  rfl

theorem items?_text {room : Nat} {t r : List Char} {s : String}
    (hGap : skipGap false t = stringText s.toList ++ r) (hNext : NoQuote r) :
    items? (value? depth) (room + 1) t =
      match skipGap false r with
      | ']' :: r => return ([.text s], r)
      | ',' :: r => do
        let (vs, r) ← items? (value? depth) room r
        return (.text s :: vs, r)
      | _ => none := by
  have hRead : value? depth (stringText s.toList ++ r) = _ := value?_text s hNext
  obtain ⟨q, text, hText, hQuote⟩ := stringText_eq_cons s.toList
  rw [items?, hGap]
  rw [hText, List.cons_append] at hRead ⊢
  split
  · rename_i hEq
    cases hEq
    simp at hQuote
  · rw [hRead]
    rfl

/-- A line of an array with several texts. -/
def itemLine (s : String) : List Char :=
  '\n' :: ' ' :: ' ' :: ' ' :: ' ' :: (stringText s.toList ++ [','])

theorem chars_texts (s t : String) (items : List String) :
    (Setting.texts (s :: t :: items)).chars =
      '[' :: ((s :: t :: items).flatMap itemLine ++ ['\n', ']']) := by
  have hBreak : "\n    ".toList = ['\n', ' ', ' ', ' ', ' '] := by simp
  rw [Setting.chars, hBreak]
  · rfl
  · exact nofun
  · exact nofun

theorem length_le_flatMap_itemLine (items : List String) :
    items.length ≤ (items.flatMap itemLine).length := by
  induction items with
  | nil => exact Nat.zero_le _
  | cons s items ih =>
    have hLine : 0 < (itemLine s).length := by
      rw [itemLine, List.length_cons]
      exact Nat.succ_pos _
    rw [List.flatMap_cons, List.length_append, List.length_cons]
    omega

theorem skipGap_itemLine (s : String) (r : List Char) :
    skipGap false (itemLine s ++ r) = stringText s.toList ++ ',' :: r := by
  rw [← skipGap_stringText, itemLine]
  simp only [List.cons_append, List.append_assoc]
  rfl

theorem items?_itemLines (items : List String) {room : Nat} (hRoom : items.length < room) :
    items? (value? depth) room (items.flatMap itemLine ++ '\n' :: ']' :: rest) =
      some (items.map .text, rest) := by
  induction items generalizing room with
  | nil =>
    match room with
    | room + 1 => rfl
  | cons s items ih =>
    match room with
    | room + 1 =>
      have hOn := ih (Nat.lt_of_succ_lt_succ hRoom)
      rw [List.flatMap_cons, List.append_assoc,
        items?_text (skipGap_itemLine s _) (by rintro c ⟨⟩; decide)]
      change (items? (value? depth) room (items.flatMap itemLine ++ '\n' :: ']' :: rest)).bind _ = _
      rw [hOn]
      rfl

theorem value?_texts (items : List String) (rest : List Char) :
    value? (depth + 1) ((Setting.texts items).chars ++ rest) =
      some (.array (items.map .text), rest) := by
  match items with
  | [] => rfl
  | [s] =>
    have hItems (room : Nat) : items? (value? depth) (room + 1)
        (stringText s.toList ++ ']' :: rest) = some ([.text s], rest) :=
      items?_text (skipGap_stringText _ _) (by rintro c ⟨⟩; decide)
    simp only [Setting.chars, List.cons_append, List.append_assoc, List.nil_append, value?, hItems]
    rfl
  | s :: t :: items =>
    have hRoom : (s :: t :: items).length <
        ((s :: t :: items).flatMap itemLine ++ '\n' :: ']' :: rest).length + 1 := by
      have hLines := length_le_flatMap_itemLine (s :: t :: items)
      rw [List.length_append]
      omega
    have hItems : items? (value? depth) _ _ = some (_, rest) := items?_itemLines _ hRoom
    simp only [chars_texts, List.cons_append, List.append_assoc, List.nil_append, value?, hItems]
    rfl

theorem value?_chars {v : Setting} (hFits : v.Fits) (rest : List Char) :
    value? depthLimit (v.chars ++ '\n' :: rest) = some (v.value, '\n' :: rest) := by
  have hStop : ∀ c ∈ ('\n' :: rest).head?, isWord c = false := by
    rintro c ⟨⟩
    decide
  cases v with
  | flag b => exact value?_flag b hStop
  | count n => exact value?_count (hFits n rfl) hStop
  | text s => exact value?_text s (by rintro c ⟨⟩; decide)
  | texts items => exact value?_texts items ('\n' :: rest)

end Values

end ScriptBridge.Toml
