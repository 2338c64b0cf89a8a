import ScriptBridge.Proofs.Toml.Setting

/-!
# Documents read back

What is written for sections of settings is read line by line: a header for each section, a pair for
each setting and a blank line between two sections. Where names are bare and no name comes twice,
the table of the document has the sections and settings in their order.
-/
namespace ScriptBridge.Toml
set_option autoImplicit false

/-- A name that is a key without quotes. -/
def BareName (name : String) : Prop := name.toList ≠ [] ∧ name.toList.all isBare = true

instance (name : String) : Decidable (BareName name) := inferInstanceAs (Decidable (_ ∧ _))

/-- The line of a setting, what is read from it and what the table gets by it. -/
def pairText (e : String × Setting) : List Char :=
  e.1.toList ++ [' ', '=', ' '] ++ e.2.chars ++ ['\n']

def pairLine (e : String × Setting) : Line := .pair ⟨[], e.1⟩ e.2.value

def pairEntry (e : String × Setting) : String × Value := (e.1, e.2.value)

namespace Section

/-- Can be written: the names need no quotes, none comes twice, and the numbers fit. -/
structure Plain (s : Section) : Prop where
  name : BareName s.name
  settings : ∀ e ∈ s.settings, BareName e.1 ∧ e.2.Fits
  distinct : (s.settings.map Prod.fst).Nodup

def header (s : Section) : List Char := '[' :: s.name.toList ++ [']', '\n']

theorem chars_eq (s : Section) : s.chars = s.header ++ s.settings.flatMap pairText := rfl

def lines (s : Section) : List Line := .table ⟨[], s.name⟩ :: s.settings.map pairLine

def entry (s : Section) : String × Value := (s.name, .table .headed (s.settings.map pairEntry))

end Section

variable {name : String} {rest r : List Char}

section Lines

/-- Where a line or a key begins with a bare name. -/
structure Opens (c : Char) : Prop where
  notBlank : isBlank c = false
  notBracket : c ≠ '['
  notQuote : c ≠ '"' ∧ c ≠ '\''
  notComment : c ≠ '#'
  notLine : c ≠ '\n' ∧ c ≠ '\r'

theorem opens_of_isBare {c : Char} (h : isBare c = true) : Opens c := by
  have hNe (d : Char) (hd : isBare d = false) : c ≠ d := by
    rintro rfl
    rw [h] at hd
    cases hd
  have hBlank : isBlank c = false := by
    simp [isBlank, hNe ' ' (by decide), hNe '\t' (by decide)]
  exact ⟨hBlank, hNe '[' (by decide), ⟨hNe '"' (by decide), hNe '\'' (by decide)⟩,
    hNe '#' (by decide), hNe '\n' (by decide), hNe '\r' (by decide)⟩

theorem BareName.exists_cons (h : BareName name) : ∃ c t, name.toList = c :: t ∧ Opens c := by
  obtain ⟨hSome, hBare⟩ := h
  match hText : name.toList with
  | [] => exact absurd hText hSome
  | c :: t =>
    have hFirst : isBare c = true := List.all_eq_true.mp hBare c (hText ▸ List.mem_cons_self)
    exact ⟨c, t, rfl, opens_of_isBare hFirst⟩

theorem skipBlanks_cons {c : Char} (h : isBlank c = false) (r : List Char) :
    skipBlanks (c :: r) = c :: r :=
  List.dropWhile_cons_of_neg (Bool.eq_false_iff.mp h)

theorem Opens.lineEnd?_eq_none {c : Char} (h : Opens c) (r : List Char) :
    lineEnd? (c :: r) = none := by
  obtain ⟨hFeed, hReturn⟩ := h.notLine
  have hComment := h.notComment
  rw [lineEnd?, skipBlanks_cons h.notBlank]
  split
  · rename_i hEq
    cases hEq
  · rename_i hEq
    cases hEq
    exact absurd rfl hComment
  · exact newline?_eq_none hFeed hReturn

/-- Such a line is neither a header nor empty. -/
theorem Opens.line?_eq {c : Char} (h : Opens c) (r : List Char) :
    line? (c :: r) = (pairOf? (value? depthLimit) (c :: r)).bind fun (key, v, r) =>
      (lineEnd? r).map fun r => (some (.pair key v), r) := by
  have hBracket := h.notBracket
  rw [line?, skipBlanks_cons h.notBlank]
  split
  · rename_i hEq
    cases hEq
    exact absurd rfl hBracket
  · rename_i hEq
    cases hEq
    exact absurd rfl hBracket
  · rw [h.lineEnd?_eq_none]
    simp only [Option.bind_eq_bind, Option.map_eq_bind]
    rfl

theorem name?_bare (h : BareName name) (hStop : ∀ c ∈ r.head?, isBare c = false) :
    name? (name.toList ++ r) = some (name, r) := by
  have hTake := takeWhile_append_stop (List.all_eq_true.mp h.2) hStop
  have hDrop := dropWhile_append_stop (List.all_eq_true.mp h.2) hStop
  obtain ⟨c, t, hText, hOpens⟩ := h.exists_cons
  obtain ⟨hDouble, hSingle⟩ := hOpens.notQuote
  have hOf : String.ofList (c :: t) = name := by rw [← hText, String.ofList_toList]
  rw [hText, List.cons_append] at hTake hDrop ⊢
  unfold name?
  split
  · rename_i hEq
    cases hEq
    exact absurd rfl hDouble
  · rename_i hEq
    cases hEq
    exact absurd rfl hSingle
  · rw [hTake, hDrop, hOf]
    rfl

theorem key?_bare (h : BareName name) (hStop : ∀ c ∈ r.head?, isBare c = false)
    (hOne : (skipBlanks r).head? ≠ some '.') :
    key? (name.toList ++ r) = some (⟨[], name⟩, skipBlanks r) := by
  have hSkip : skipBlanks (name.toList ++ r) = name.toList ++ r := by
    obtain ⟨c, t, hText, hOpens⟩ := h.exists_cons
    rw [hText]
    exact skipBlanks_cons hOpens.notBlank _
  rw [key?, depthLimit, keyWithin?, hSkip, name?_bare h hStop]
  simp only [Option.bind_eq_bind, Option.bind_some]
  split
  · rename_i hPoint
    exact absurd (hPoint ▸ rfl) hOne
  · rfl

theorem line?_header {s : Section} (h : BareName s.name) (r : List Char) :
    line? (s.header ++ r) = some (some (.table ⟨[], s.name⟩), r) := by
  have hKey : key? (s.name.toList ++ ']' :: '\n' :: r) = some (⟨[], s.name⟩, ']' :: '\n' :: r) :=
    key?_bare h (by rintro c ⟨⟩; decide) (by rintro ⟨⟩)
  have hHeader : s.header ++ r = '[' :: (s.name.toList ++ ']' :: '\n' :: r) := by
    rw [Section.header, List.append_assoc]
    rfl
  obtain ⟨c, t, hText, hOpens⟩ := h.exists_cons
  have hBracket := hOpens.notBracket
  rw [hHeader, line?, skipBlanks_cons (by decide)]
  rw [hText, List.cons_append] at hKey ⊢
  split
  · rename_i hDouble
    cases hDouble
    exact absurd rfl hBracket
  · rename_i hSingle
    cases hSingle
    rw [hKey]
    rfl
  · rename_i hNotSingle
    exact absurd rfl (hNotSingle _)

theorem skipBlanks_chars (v : Setting) (r : List Char) :
    skipBlanks (v.chars ++ r) = v.chars ++ r := by
  cases v with
  | flag b => cases b <;> rfl
  | count n =>
    rw [Setting.chars, Nat.toList_repr]
    have hSome : Nat.toDigits 10 n ≠ [] := Nat.toDigits_ne_nil
    obtain ⟨c, t, hDigits⟩ := List.exists_cons_of_ne_nil hSome
    have hDigit : c.isDigit = true :=
      Numeral.isDecimal_of_mem_toDigits (hDigits ▸ List.mem_cons_self)
    have hBare : isBare c = true := by
      simp [isBare, Char.isAlphanum, hDigit]
    rw [hDigits]
    exact skipBlanks_cons (opens_of_isBare hBare).notBlank _
  | text s =>
    obtain ⟨q, t, hText, rfl | rfl⟩ := stringText_eq_cons s.toList <;>
      rw [Setting.chars, hText] <;> rfl
  | texts items =>
    rcases items with _ | ⟨s, _ | ⟨t, items⟩⟩ <;> rfl

theorem line?_pairText {e : String × Setting} (h : BareName e.1) (hFits : e.2.Fits)
    (r : List Char) : line? (pairText e ++ r) = some (some (pairLine e), r) := by
  have hKey : key? (e.1.toList ++ ([' ', '=', ' '] ++ (e.2.chars ++ '\n' :: r))) =
      some (⟨[], e.1⟩, '=' :: ' ' :: (e.2.chars ++ '\n' :: r)) :=
    key?_bare h (by rintro c ⟨⟩; decide) (by rintro ⟨⟩)
  have hValue : value? depthLimit (skipBlanks (' ' :: (e.2.chars ++ '\n' :: r))) =
      some (e.2.value, '\n' :: r) :=
    (congrArg _ (skipBlanks_chars e.2 _)).trans (value?_chars hFits r)
  have hText : pairText e ++ r = e.1.toList ++ ([' ', '=', ' '] ++ (e.2.chars ++ '\n' :: r)) := by
    simp only [pairText, List.append_assoc, List.singleton_append]
  have hPair : pairOf? (value? depthLimit) (pairText e ++ r) =
      some (⟨[], e.1⟩, e.2.value, '\n' :: r) := by
    rw [hText, pairOf?, hKey]
    simp only [Option.bind_eq_bind, Option.bind_some]
    rw [hValue]
    rfl
  obtain ⟨c, t, hName, hOpens⟩ := h.exists_cons
  rw [hText, hName, List.cons_append] at hPair ⊢
  rw [hOpens.line?_eq, hPair]
  rfl

/-- These lines are read from the text in any room that is enough for its length. -/
def Reads (ls : List Line) (s : List Char) : Prop :=
  ∀ room, s.length ≤ room → lines? room s = some ls

theorem Reads.cons {ls : List Line} {line : Option Line} {t : List Char}
    (h : line? (t ++ r) = some (line, r)) (hSome : t ≠ []) (hRest : Reads ls r) :
    Reads (line.toList ++ ls) (t ++ r) := by
  intro room hRoom
  match room, t with
  | _, [] => exact absurd rfl hSome
  | 0, c :: t => cases hRoom
  | room + 1, c :: t =>
    have hRoom : r.length ≤ room := by
      simp only [List.length_append, List.length_cons] at hRoom
      omega
    rw [List.cons_append] at h ⊢
    rw [lines?, h]
    · simp [hRest room hRoom]
    · exact nofun

theorem reads_settings {settings : List (String × Setting)} {ls : List Line}
    (hPlain : ∀ e ∈ settings, BareName e.1 ∧ e.2.Fits) (hRest : Reads ls r) :
    Reads (settings.map pairLine ++ ls) (settings.flatMap pairText ++ r) := by
  induction settings with
  | nil => exact hRest
  | cons e settings ih =>
    obtain ⟨⟨hName, hFits⟩, hMore⟩ := List.forall_mem_cons.mp hPlain
    rw [List.flatMap_cons, List.append_assoc]
    exact Reads.cons (line?_pairText hName hFits _) (by simp [pairText]) (ih hMore)

theorem reads_section {s : Section} {ls : List Line} (h : s.Plain) (hRest : Reads ls r) :
    Reads (s.lines ++ ls) (s.chars ++ r) := by
  rw [Section.chars_eq, List.append_assoc]
  exact Reads.cons (line?_header h.name _) (List.cons_ne_nil _ _) (reads_settings h.settings hRest)

theorem reads_nil : Reads [] [] := by
  intro room _
  cases room <;> rfl

theorem reads_sections {sections : List Section} (h : ∀ s ∈ sections, s.Plain) :
    Reads (sections.flatMap Section.lines) (['\n'].intercalate (sections.map Section.chars)) := by
  induction sections with
  | nil => exact reads_nil
  | cons s sections ih =>
    obtain ⟨hHere, hMore⟩ := List.forall_mem_cons.mp h
    match sections with
    | [] =>
      have hLast := reads_section hHere reads_nil
      rw [List.append_nil] at hLast
      rw [List.map_singleton, List.intercalate_singleton, List.flatMap_singleton]
      simpa using hLast
    | t :: sections =>
      have hLine (r : List Char) : line? (['\n'] ++ r) = some (none, r) := rfl
      have hBlank := Reads.cons (hLine _) (List.cons_ne_nil _ _) (ih hMore)
      rw [List.map_cons, List.map_cons, List.intercalate_cons_cons, List.append_assoc,
        List.flatMap_cons]
      exact reads_section hHere hBlank

end Lines

section Table

variable {before : Entries} {current : List String}

/-- The draft while the settings of a section are added, `done` of them so far. -/
def opened (before : Entries) (name : String) (done : Entries) : Draft :=
  ⟨before ++ [(name, .table .headed done)], [name]⟩

theorem add_header (h : name ∉ before.map Prod.fst) :
    Draft.add ⟨before, current⟩ (.table ⟨[], name⟩) = some (opened before name []) := by
  have hNone : before.get? name = none := Names.get?_eq_none_iff.mpr h
  simp [Draft.add, Entries.within, Entries.openTable, hNone, opened, Key.path]

theorem add_pairLine {e : String × Setting} {done : Entries} (hName : name ∉ before.map Prod.fst)
    (hNew : e.1 ∉ done.map Prod.fst) :
    Draft.add (opened before name done) (pairLine e) =
      some (opened before name (done ++ [pairEntry e])) := by
  have hNone : done.get? e.1 = none := Names.get?_eq_none_iff.mpr hNew
  have hGet : (before ++ [(name, Value.table .headed done)]).get? name =
      some (.table .headed done) := by
    rw [Names.get?_append_of_not_mem _ hName, Names.get?, if_pos rfl]
  simp [Draft.add, opened, Entries.within, Entries.assign, pairLine, hGet, hNone,
    Names.put_append_of_not_mem _ _ hName, Names.put, pairEntry]

theorem not_mem_of_nodup {a : String} {l m : List String} (h : (l ++ a :: m).Nodup) : a ∉ l :=
  fun hMem => (List.nodup_append.mp h).2.2 a hMem a List.mem_cons_self rfl

theorem foldlM_add_pairLines {settings : List (String × Setting)} {done : Entries}
    (hName : name ∉ before.map Prod.fst)
    (hDistinct : (done.map Prod.fst ++ settings.map Prod.fst).Nodup) :
    (settings.map pairLine).foldlM Draft.add (opened before name done) =
      some (opened before name (done ++ settings.map pairEntry)) := by
  induction settings generalizing done with
  | nil =>
    rw [List.map_nil, List.map_nil, List.append_nil]
    rfl
  | cons e settings ih =>
    have hNext : ((done ++ [pairEntry e]).map Prod.fst ++ settings.map Prod.fst).Nodup := by
      rw [List.map_append, List.append_assoc]
      exact hDistinct
    rw [List.map_cons, List.foldlM_cons, add_pairLine hName (not_mem_of_nodup hDistinct)]
    change (settings.map pairLine).foldlM Draft.add (opened before name _) = _
    rw [ih hNext, List.append_assoc]
    rfl

theorem foldlM_add_section {s : Section} (h : s.Plain) (hName : s.name ∉ before.map Prod.fst) :
    s.lines.foldlM Draft.add ⟨before, current⟩ = some ⟨before ++ [s.entry], [s.name]⟩ := by
  rw [Section.lines, List.foldlM_cons, add_header hName]
  exact foldlM_add_pairLines hName h.distinct

theorem foldlM_add_sections {sections : List Section} (h : ∀ s ∈ sections, s.Plain)
    (hDistinct : (before.map Prod.fst ++ sections.map Section.name).Nodup) :
    ((sections.flatMap Section.lines).foldlM Draft.add ⟨before, current⟩).map (·.root) =
      some (before ++ sections.map Section.entry) := by
  induction sections generalizing before current with
  | nil =>
    rw [List.map_nil, List.append_nil]
    rfl
  | cons s sections ih =>
    obtain ⟨hHere, hMore⟩ := List.forall_mem_cons.mp h
    have hNext : ((before ++ [s.entry]).map Prod.fst ++ sections.map Section.name).Nodup := by
      rw [List.map_append, List.append_assoc]
      exact hDistinct
    rw [List.flatMap_cons, List.foldlM_append,
      foldlM_add_section hHere (not_mem_of_nodup hDistinct)]
    change ((sections.flatMap Section.lines).foldlM Draft.add ⟨_, _⟩).map (·.root) = _
    rw [ih hMore hNext, List.append_assoc]
    rfl

end Table

theorem dropMark_print (sections : List Section) :
    dropMark (print sections).toList = ['\n'].intercalate (sections.map Section.chars) := by
  rw [print, String.toList_ofList]
  match sections with
  | [] => rfl
  | [s] => rfl
  | s :: t :: sections => rfl

/-- A document of plain sections with different names reads as the table of its sections, each with
its settings in their order. -/
theorem read?_print {sections : List Section} (h : ∀ s ∈ sections, s.Plain)
    (hDistinct : (sections.map Section.name).Nodup) :
    read? (print sections) = some (sections.map Section.entry) := by
  have hTable : ofLines? (sections.flatMap Section.lines) =
      some ([] ++ sections.map Section.entry) := foldlM_add_sections h hDistinct
  rw [read?, dropMark_print, reads_sections h _ (Nat.le_succ _)]
  exact hTable

end ScriptBridge.Toml
