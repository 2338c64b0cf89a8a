import ScriptBridge.Toml.Quoted
import ScriptBridge.Toml.Style

/-!
# Strings read back

Whichever form a string is written in, the reader finds the string and what stands after it. In the
basic forms this goes character by character, through the ways a character is spelled there. In the
forms over several lines a quote has a meaning only together with its neighbours: the induction
carries the quotes in a row that stand before the rest of the string.
-/
namespace ScriptBridge.Toml
set_option autoImplicit false

variable {c : Char} {s r rest : List Char}

/-- No quote comes first; one would run into the closing quote of a string. -/
def NoQuote (rest : List Char) : Prop := ∀ c ∈ rest.head?, c ≠ '"' ∧ c ≠ '\''

theorem isPlain_of_not_isControl (h : isControl c = false) (hLine : c ≠ '\n') :
    isPlain c = true := by
  obtain ⟨hLow, hDelete⟩ := Bool.or_eq_false_iff.mp h
  rw [isPlain, bne, hDelete, Bool.not_false, Bool.and_true, Bool.or_eq_true, decide_eq_true_iff]
  by_cases hTab : c = '\t'
  · exact .inl (beq_iff_eq.mpr hTab)
  · have hNotLess : ¬ c < ' ' := by simpa [hTab, hLine] using hLow
    exact .inr (Char.not_lt.mp hNotLess)

section Spelling

/-- The ways a character is spelled in a basic string. -/
inductive Spelling (c : Char) : List Char → Prop where
  | letter (e : Char) (h : letterEscape? e = some c) : Spelling c ['\\', e]
  | code (a b : Char) (h : coded? ['0', '0', a, b] = some c) :
    Spelling c ['\\', 'u', '0', '0', a, b]
  | self (hQuote : c ≠ '"') (hSlash : c ≠ '\\') (hPlain : isPlain c = true) : Spelling c [c]

theorem coded?_hexDigit : ∀ n < 128,
    coded? ['0', '0', hexDigit (n / 16), hexDigit n] = some (Char.ofNat n) := by
  decide +kernel

theorem spelling_escape (c : Char) : Spelling c (escape c) := by
  unfold escape
  split
  · next h =>
    subst h
    exact .letter 'b' rfl
  split
  · next h =>
    subst h
    exact .letter 't' rfl
  split
  · next h =>
    subst h
    exact .letter 'n' rfl
  split
  · next h =>
    subst h
    exact .letter 'f' rfl
  split
  · next h =>
    subst h
    exact .letter 'r' rfl
  split
  · next h =>
    subst h
    exact .letter '"' rfl
  split
  · next h =>
    subst h
    exact .letter '\\' rfl
  split
  · next hControl =>
    have hAscii : c.toNat < 128 := by
      rcases Bool.or_eq_true_iff.mp hControl with hLow | hDelete
      · have hLow : c < ' ' := of_decide_eq_true (Bool.and_eq_true_iff.mp
          (Bool.and_eq_true_iff.mp hLow).1).1
        have hLow : c.toNat < 32 := hLow
        omega
      · rw [beq_iff_eq.mp hDelete]
        decide
    refine .code _ _ ?_
    rw [coded?_hexDigit c.toNat hAscii, Char.ofNat_toNat]
  · next hLine _ _ hQuote hSlash hControl =>
    exact .self hQuote hSlash
      (isPlain_of_not_isControl (Bool.eq_false_iff.mpr hControl) hLine)

theorem basicString?_spelling {t : List Char} (h : Spelling c t) :
    basicString? (t ++ r) = before c (basicString? r) := by
  cases h with
  | letter e h =>
    have hCode : e ≠ 'u' ∧ e ≠ 'U' := by
      constructor <;> rintro rfl <;> cases h
    simp [basicString?, hCode, h]
  | code a b h =>
    simp [basicString?, h]
  | self hQuote hSlash hPlain =>
    simp [basicString?, hSlash, hPlain]

theorem multilineBasic?_spelling {t : List Char} (h : Spelling c t) :
    multilineBasic? false (t ++ r) = before c (multilineBasic? false r) := by
  cases h with
  | letter e h =>
    have hCode : e ≠ 'u' ∧ e ≠ 'U' := by
      constructor <;> rintro rfl <;> cases h
    simp [multilineBasic?, hCode, h]
  | code a b h =>
    simp [multilineBasic?, h]
  | self hQuote hSlash hPlain =>
    have hLine : c ≠ '\n' ∧ c ≠ '\r' := by
      constructor <;> rintro rfl <;> cases hPlain
    simp [multilineBasic?, hQuote, hSlash, hPlain, hLine]

theorem Spelling.head?_ne {t : List Char} (h : Spelling c t) : (t ++ r).head? ≠ some '"' := by
  cases h with
  | letter e h => simp
  | code a b h => simp
  | self hQuote => simpa using hQuote

end Spelling

theorem basicString?_flatMap (s rest : List Char) :
    basicString? (s.flatMap escape ++ '"' :: rest) = some (s, rest) := by
  induction s with
  | nil => rfl
  | cons c s ih =>
    rw [List.flatMap_cons, List.append_assoc, basicString?_spelling (spelling_escape c), ih]
    rfl

theorem literalString?_append (h : ∀ c ∈ s, isPlain c = true ∧ c ≠ '\'') :
    literalString? (s ++ '\'' :: rest) = some (s, rest) := by
  induction s with
  | nil => rfl
  | cons c s ih =>
    obtain ⟨⟨hPlain, hQuote⟩, hRest⟩ := List.forall_mem_cons.mp h
    rw [List.cons_append, literalString?, if_pos hPlain, ih hRest]
    · rfl
    · exact hQuote

section Lines

variable {f : List Char → Option (List Char × List Char)} {q : Char} {k : Nat} {t : List Char}

/-- A reader of strings over several lines takes a quote as itself unless two more follow. -/
def KeepsQuotes (q : Char) (f : List Char → Option (List Char × List Char)) : Prop :=
  ∀ r, (∀ t, r ≠ q :: q :: t) → f (q :: r) = before q (f r)

theorem keepsQuotes_multilineBasic? : KeepsQuotes '"' (multilineBasic? false) := by
  intro r h
  have hPlain : isPlain '"' = true := by decide
  simp [multilineBasic?, h, hPlain]

theorem keepsQuotes_multilineLiteral? : KeepsQuotes '\'' multilineLiteral? := by
  intro r h
  have hPlain : isPlain '\'' = true := by decide
  simp [multilineLiteral?, h, hPlain]

/-- Up to two quotes in a row are themselves where something else than a quote comes next. -/
theorem KeepsQuotes.apply_replicate (hf : KeepsQuotes q f) (hFew : k ≤ 2)
    (hNext : r.head? ≠ some q) (h : f r = some (s, rest)) :
    f (List.replicate k q ++ r) = some (List.replicate k q ++ s, rest) := by
  induction k with
  | zero => exact h
  | succ k ih =>
    have hTwo (t : List Char) : List.replicate k q ++ r ≠ q :: q :: t := by
      intro hEq
      have hCount : k = 0 ∨ k = 1 := by omega
      rcases hCount with rfl | rfl
      · rw [List.replicate_zero, List.nil_append] at hEq
        exact hNext (hEq ▸ rfl)
      · rw [List.replicate_one, List.singleton_append, List.cons.injEq] at hEq
        exact hNext (hEq.2 ▸ rfl)
    rw [List.replicate_succ, List.cons_append, hf _ hTwo, ih (by omega)]
    rfl

theorem multilineBasic?_closing (hRest : rest.head? ≠ some '"') (hFew : k ≤ 2) :
    multilineBasic? false (List.replicate k '"' ++ '"' :: '"' :: '"' :: rest) =
      some (List.replicate k '"', rest) := by
  have hNext (t : List Char) : rest ≠ '"' :: t := by
    rintro rfl
    exact hRest rfl
  have hCount : k = 0 ∨ k = 1 ∨ k = 2 := by omega
  rcases hCount with rfl | rfl | rfl <;> simp [multilineBasic?, hNext]

theorem multilineLiteral?_closing (hRest : rest.head? ≠ some '\'') (hFew : k ≤ 2) :
    multilineLiteral? (List.replicate k '\'' ++ '\'' :: '\'' :: '\'' :: rest) =
      some (List.replicate k '\'', rest) := by
  have hNext (t : List Char) : rest ≠ '\'' :: t := by
    rintro rfl
    exact hRest rfl
  have hCount : k = 0 ∨ k = 1 ∨ k = 2 := by omega
  rcases hCount with rfl | rfl | rfl <;> simp [multilineLiteral?, hNext]

/-- The body of a basic string over several lines; `k` quotes in a row have come before it. -/
theorem multilineBasic?_body (hRest : rest.head? ≠ some '"') (hFew : k ≤ 2) :
    multilineBasic? false
        (List.replicate k '"' ++ (multilineBody k s ++ '"' :: '"' :: '"' :: rest)) =
      some (List.replicate k '"' ++ s, rest) := by
  induction s generalizing k with
  | nil =>
    rw [List.append_nil]
    exact multilineBasic?_closing hRest hFew
  | cons c s ih =>
    have hOn := ih (Nat.zero_le 2)
    by_cases hQuote : c = '"'
    · subst hQuote
      by_cases hThird : k = 2
      · subst hThird
        -- the third quote in a row is escaped
        refine keepsQuotes_multilineBasic?.apply_replicate hFew (by simp [multilineBody]) ?_
        refine (multilineBasic?_spelling (.letter '"' rfl)).trans ?_
        exact congrArg (before '"') hOn
      · have hMore := ih (k := k + 1) (by omega)
        rw [List.replicate_succ', List.append_assoc, List.append_assoc] at hMore
        rw [multilineBody, if_pos rfl, if_neg hThird]
        exact hMore
    · by_cases hLine : c = '\n'
      · subst hLine
        refine keepsQuotes_multilineBasic?.apply_replicate hFew (by simp [multilineBody]) ?_
        exact congrArg (before '\n') hOn
      · have hSpelling := spelling_escape c
        rw [multilineBody, if_neg hQuote, if_neg hLine, List.append_assoc]
        refine keepsQuotes_multilineBasic?.apply_replicate hFew hSpelling.head?_ne ?_
        exact (multilineBasic?_spelling hSpelling).trans (congrArg (before c) hOn)

theorem hasTriple_of_cons (h : hasTriple q (c :: s) = false) : hasTriple q s = false := by
  match s with
  | [] | [_] => rfl
  | _ :: _ :: _ => exact (Bool.or_eq_false_iff.mp h).2

theorem hasTriple_of_append (h : hasTriple q (t ++ s) = false) : hasTriple q s = false := by
  induction t with
  | nil => exact h
  | cons c t ih => exact ih (hasTriple_of_cons h)

/-- A literal string over several lines; `k` quotes in a row have come before it. -/
theorem multilineLiteral?_body (hRest : rest.head? ≠ some '\'') (hFew : k ≤ 2)
    (hClean : ∀ c ∈ s, isControl c = false)
    (hTriple : hasTriple '\'' (List.replicate k '\'' ++ s) = false) :
    multilineLiteral? (List.replicate k '\'' ++ (s ++ '\'' :: '\'' :: '\'' :: rest)) =
      some (List.replicate k '\'' ++ s, rest) := by
  induction s generalizing k with
  | nil =>
    rw [List.append_nil]
    exact multilineLiteral?_closing hRest hFew
  | cons c s ih =>
    obtain ⟨hControl, hCleanRest⟩ := List.forall_mem_cons.mp hClean
    by_cases hQuote : c = '\''
    · subst hQuote
      have hLess : k ≠ 2 := by
        rintro rfl
        cases hTriple
      have hMore := ih (k := k + 1) (by omega) hCleanRest (by
        rwa [List.replicate_succ', List.append_assoc])
      rw [List.replicate_succ', List.append_assoc, List.append_assoc] at hMore
      exact hMore
    · have hOn := ih (Nat.zero_le 2) hCleanRest (hasTriple_of_cons (hasTriple_of_append hTriple))
      refine keepsQuotes_multilineLiteral?.apply_replicate hFew (by simpa using hQuote) ?_
      by_cases hLine : c = '\n'
      · subst hLine
        exact congrArg (before '\n') hOn
      · have hPlain := isPlain_of_not_isControl hControl hLine
        have hReturn : c ≠ '\r' := by
          rintro rfl
          cases hPlain
        have hStep (r : List Char) :
            multilineLiteral? (c :: r) = before c (multilineLiteral? r) := by
          simp [multilineLiteral?, hQuote, hReturn, hPlain]
        exact (hStep _).trans (congrArg (before c) hOn)

theorem newline?_eq_none (hFeed : c ≠ '\n') (hReturn : c ≠ '\r') : newline? (c :: r) = none := by
  unfold newline?
  split
  · rename_i hEq
    cases hEq
    exact absurd rfl hFeed
  · rename_i hEq
    cases hEq
    exact absurd rfl hReturn
  · rfl

/-- The line feed of the opening is dropped, and nothing else. -/
theorem dropNewline_opening (h : '\n' ∉ s → r.head? ≠ some '\n' ∧ r.head? ≠ some '\r') :
    dropNewline (opening s ++ r) = r := by
  by_cases hLines : '\n' ∈ s
  · rw [opening, if_pos (List.contains_iff_mem.mpr hLines)]
    rfl
  · obtain ⟨hFeed, hReturn⟩ := h hLines
    rw [opening, if_neg (mt List.contains_iff_mem.mp hLines), List.nil_append, dropNewline]
    match r with
    | [] => rfl
    | c :: r =>
      rw [newline?_eq_none (mt (congrArg some) hFeed) (mt (congrArg some) hReturn)]
      rfl

theorem Spelling.head?_notLine (h : Spelling c t) (r : List Char) :
    (t ++ r).head? ≠ some '\n' ∧ (t ++ r).head? ≠ some '\r' := by
  cases h with
  | letter e h => simp
  | code a b h => simp
  | self hQuote hSlash hPlain =>
    constructor <;> intro hHead <;> cases hHead <;> cases hPlain

theorem head?_multilineBody (h : '\n' ∉ s) (r : List Char) :
    (multilineBody 0 s ++ '"' :: r).head? ≠ some '\n' ∧
      (multilineBody 0 s ++ '"' :: r).head? ≠ some '\r' := by
  match s with
  | [] => simp [multilineBody]
  | c :: s =>
    by_cases hQuote : c = '"'
    · simp [multilineBody, hQuote]
    · have hLine : c ≠ '\n' := (List.ne_of_not_mem_cons h).symm
      rw [multilineBody, if_neg hQuote, if_neg hLine, List.append_assoc]
      exact (spelling_escape c).head?_notLine _

theorem head?_clean (hClean : ∀ c ∈ s, isControl c = false) (h : '\n' ∉ s) (r : List Char) :
    (s ++ '\'' :: r).head? ≠ some '\n' ∧ (s ++ '\'' :: r).head? ≠ some '\r' := by
  match s with
  | [] => simp
  | c :: s =>
    have hLine : c ≠ '\n' := (List.ne_of_not_mem_cons h).symm
    have hReturn : c ≠ '\r' := by
      rintro rfl
      cases hClean '\r' List.mem_cons_self
    exact ⟨by simpa using hLine, by simpa using hReturn⟩

end Lines

section Choice

open Style

theorem clean_of_choose (h : choose s = .literal ∨ choose s = .multilineLiteral) :
    ∀ c ∈ s, isControl c = false := by
  unfold choose at h
  grind

theorem choose_eq_literal (h : choose s = .literal) : '\'' ∉ s ∧ '\n' ∉ s ∧ s ≠ [] := by
  unfold choose at h
  grind

theorem hasTriple_of_choose (h : choose s = .multilineLiteral) : hasTriple '\'' s = false := by
  unfold choose at h
  grind

end Choice

theorem string?_basic (hRest : rest.head? ≠ some '"') :
    string? ('"' :: (s.flatMap escape ++ '"' :: rest)) = some (s, rest) := by
  have hOne (t : List Char) : s.flatMap escape ++ '"' :: rest ≠ '"' :: '"' :: t := by
    intro h
    match s with
    | [] => exact hRest (congrArg List.head? (List.cons.inj h).2)
    | c :: s =>
      refine (spelling_escape c).head?_ne (r := s.flatMap escape ++ '"' :: rest) ?_
      rw [← List.append_assoc, ← List.flatMap_cons, h]
      rfl
  have hRead := basicString?_flatMap s rest
  simp [string?, hRead]

theorem string?_literal (hPlain : ∀ c ∈ s, isPlain c = true ∧ c ≠ '\'') (hSome : s ≠ []) :
    string? ('\'' :: (s ++ '\'' :: rest)) = some (s, rest) := by
  have hRead : literalString? (s ++ '\'' :: rest) = some (s, rest) := literalString?_append hPlain
  obtain ⟨c, t, rfl⟩ := List.exists_cons_of_ne_nil hSome
  have hQuote := (hPlain c List.mem_cons_self).2
  rw [List.cons_append] at hRead ⊢
  rw [string?, hRead]
  exact fun r hTriple => hQuote (List.cons.inj hTriple).1

/-- A string is read back from its text, whatever characters it has and whatever stands after it,
if that is no quote. -/
theorem string?_stringText (s : List Char) (hRest : NoQuote rest) :
    string? (stringText s ++ rest) = some (s, rest) := by
  have hBasic : rest.head? ≠ some '"' := fun h => (hRest _ h).1 rfl
  have hLiteral : rest.head? ≠ some '\'' := fun h => (hRest _ h).2 rfl
  cases hStyle : Style.choose s with
  | basic =>
    rw [stringText, hStyle, List.append_assoc]
    exact string?_basic hBasic
  | literal =>
    obtain ⟨hQuote, hLines, hSome⟩ := choose_eq_literal hStyle
    rw [stringText, hStyle, List.append_assoc]
    refine string?_literal (fun c hc => ⟨?_, ?_⟩) hSome
    · refine isPlain_of_not_isControl (clean_of_choose (.inl hStyle) c hc) ?_
      rintro rfl
      exact hLines hc
    · rintro rfl
      exact hQuote hc
  | multilineBasic =>
    have hDrop : dropNewline (opening s ++ (multilineBody 0 s ++ '"' :: '"' :: '"' :: rest)) = _ :=
      dropNewline_opening fun hLines => head?_multilineBody hLines _
    have hRead := multilineBasic?_body (s := s) hBasic (Nat.zero_le 2)
    rw [stringText, hStyle]
    simp only [List.cons_append, List.append_assoc, List.nil_append, string?]
    rw [hDrop]
    exact hRead
  | multilineLiteral =>
    have hClean := clean_of_choose (.inr hStyle)
    have hDrop : dropNewline (opening s ++ (s ++ '\'' :: '\'' :: '\'' :: rest)) = _ :=
      dropNewline_opening fun hLines => head?_clean hClean hLines _
    have hTriple := hasTriple_of_choose hStyle
    have hRead := multilineLiteral?_body hLiteral (Nat.zero_le 2) hClean hTriple
    rw [stringText, hStyle]
    simp only [List.cons_append, List.append_assoc, List.nil_append, string?]
    rw [hDrop]
    exact hRead

end ScriptBridge.Toml
