import ScriptBridge.Files.Tree
import ScriptBridge.Text.Utf8

/-!
# What is written is read

Putting something into a place that is no directory leaves every directory where it is, with the
names it had. So every path leads where it led, and the path of a file that was written leads to
that file.
-/
namespace ScriptBridge
set_option autoImplicit false

namespace Tree

variable {root t u : Tree} {place p q : Path} {f : Tree → Tree} {name step text : String}
  {entries : List (String × Tree)}

section Put

theorem at?_append (t : Tree) (p q : Path) : t.at? (p ++ q) = (t.at? p).bind (·.at? q) := by
  induction p generalizing t with
  | nil => rfl
  | cons name p ih =>
    cases t with
    | file _ => rfl
    | locked => rfl
    | directory entries =>
      rw [List.cons_append, at?, at?]
      cases Names.get? entries name with
      | none => rfl
      | some t => exact ih t

theorem put_append (f : Tree → Tree) (p q : Path) (t : Tree) :
    put f (p ++ q) t = put (put f q) p t := by
  induction p generalizing t with
  | nil => rfl
  | cons name p ih =>
    cases t with
    | file _ => rfl
    | locked => rfl
    | directory entries =>
      rw [List.cons_append, put, put, ih]

theorem at?_put (h : t.at? p = some u) : (put f p t).at? p = some (f u) := by
  induction p generalizing t with
  | nil =>
    cases h
    rfl
  | cons name p ih =>
    cases t with
    | file _ => cases h
    | locked => cases h
    | directory entries =>
      rw [at?] at h
      rw [put, at?, Names.get?_put_self]
      cases hEntry : Names.get? entries name with
      | none =>
        rw [hEntry] at h
        cases h
      | some t =>
        rw [hEntry] at h
        exact ih h

/-- A new name in a directory leads to what was put there. -/
theorem at?_put_new (h : t.at? p = some (.directory entries))
    (hNew : Names.get? entries name = none) :
    (put f (p ++ [name]) t).at? (p ++ [name]) = some (f (.directory [])) := by
  rw [put_append, at?_append, at?_put h]
  simp [put, at?, Names.get?_put_self, hNew]

end Put

section Keeps

/-- Every directory is still where it was, with the names it had. -/
def Keeps (root t : Tree) : Prop :=
  ∀ place entries, root.at? place = some (.directory entries) →
    ∃ entries', t.at? place = some (.directory entries') ∧
      ∀ name, (Names.get? entries name).isSome = true → (Names.get? entries' name).isSome = true

theorem Keeps.refl (root : Tree) : Keeps root root := fun _ entries h => ⟨entries, h, fun _ => id⟩

theorem keeps_put (hPlace : ∀ entries, root.at? place ≠ some (.directory entries)) :
    Keeps root (put f place root) := by
  induction place generalizing root with
  | nil =>
    intro p entries h
    cases root with
    | file _ => cases p <;> cases h
    | locked => cases p <;> cases h
    | directory entries => exact absurd rfl (hPlace entries)
  | cons name place ih =>
    cases root with
    | file _ => exact .refl _
    | locked => exact .refl _
    | directory here =>
      intro p entries h
      cases p with
      | nil =>
        cases h
        refine ⟨_, rfl, fun other hOther => ?_⟩
        by_cases hName : other = name
        · rw [hName, Names.get?_put_self]
          rfl
        · rwa [Names.get?_put_of_ne _ _ hName]
      | cons step p =>
        by_cases hName : step = name
        · subst hName
          rw [at?] at h
          cases hEntry : Names.get? here step with
          | none =>
            rw [hEntry] at h
            cases h
          | some t =>
            rw [hEntry] at h
            have hThere (entries : List (String × Tree)) :
                t.at? place ≠ some (.directory entries) := by
              have hPlace := hPlace entries
              rwa [at?, hEntry] at hPlace
            rw [put, at?, Names.get?_put_self, hEntry]
            exact ih hThere p entries h
        · refine ⟨entries, ?_, fun _ => id⟩
          rw [put, at?, Names.get?_put_of_ne _ _ hName]
          exact h

/-- How a path goes on from a place, by its next step. -/
theorem resolveFrom_cons_eq_ok_iff :
    resolveFrom root place (step :: p) = .ok q ↔
      ∃ entries, root.at? place = some (.directory entries) ∧
        if step = "." then resolveFrom root place p = .ok q
        else if step = ".." then place ≠ [] ∧ resolveFrom root place.dropLast p = .ok q
        else (Names.get? entries step).isSome = true ∧
          resolveFrom root (place ++ [step]) p = .ok q := by
  rw [resolveFrom]
  split
  · rename_i entries hPlace
    simp only [hPlace, Option.some.injEq, directory.injEq, exists_eq_left']
    split
    · rfl
    · split
      · cases place <;> simp
      · split <;> simp_all
  · rename_i hPlace
    simp [hPlace]
  · rename_i hPlace
    simp [hPlace]
  · rename_i hPlace
    simp [hPlace]

theorem resolveFrom_of_keeps (hKeeps : Keeps root t) (h : resolveFrom root place p = .ok q) :
    resolveFrom t place p = .ok q := by
  induction p generalizing place with
  | nil => exact h
  | cons step p ih =>
    obtain ⟨entries, hPlace, hStep⟩ := resolveFrom_cons_eq_ok_iff.mp h
    obtain ⟨entries', hPlace', hNames⟩ := hKeeps _ _ hPlace
    refine resolveFrom_cons_eq_ok_iff.mpr ⟨entries', hPlace', ?_⟩
    split at hStep
    · rename_i hStay
      rw [if_pos hStay]
      exact ih hStep
    · rename_i hStay
      rw [if_neg hStay]
      split at hStep
      · rename_i hUp
        rw [if_pos hUp]
        exact hStep.imp_right ih
      · rename_i hUp
        rw [if_neg hUp]
        exact hStep.imp (hNames _) ih

end Keeps

section Write

theorem resolveFrom_append (root : Tree) (place p q : Path) :
    resolveFrom root place (p ++ q) =
      (resolveFrom root place p).bind fun place => resolveFrom root place q := by
  induction p generalizing place with
  | nil => rfl
  | cons step p ih =>
    rw [List.cons_append, resolveFrom, resolveFrom]
    split
    · split
      · exact ih place
      · split
        · split
          · rfl
          · exact ih _
        · split
          · exact ih _
          · rfl
    · rfl
    · rfl
    · rfl

/-- The places of files that can be written at a path: one that is there, or one with a new name in
a directory that is. -/
inductive WritesAt (root : Tree) : Path → Path → Prop where
  | old {p place : Path} (content : ByteArray) (hResolve : root.resolve p = .ok place)
    (hFile : root.at? place = some (.file content)) : WritesAt root p place
  | new {p place : Path} (name : String) (entries : List (String × Tree))
    (hResolve : root.resolve p = .ok place) (hDirectory : root.at? place = some (.directory entries))
    (hName : name ≠ "." ∧ name ≠ "..") (hNew : Names.get? entries name = none) :
    WritesAt root (p ++ [name]) (place ++ [name])

theorem resolveFrom_singleton (hPlace : root.at? place = some (.directory entries))
    (hUp : name ≠ "..") : resolveFrom root place [name] =
      if name = "." then .ok place
      else if (Names.get? entries name).isSome then .ok (place ++ [name])
      else .error .missing := by
  simp only [resolveFrom, hPlace, if_neg hUp]

theorem writesAt_of_writable (h : root.writable p = .ok place) : WritesAt root p place := by
  rw [writable] at h
  split at h
  · rename_i hResolve
    split at h
    · rename_i hFile
      cases h
      exact .old _ hResolve hFile
    · cases h
    · cases h
  · rename_i hMissing
    cases hResolve : root.resolve p.dropLast with
    | error e =>
      rw [hResolve] at h
      cases h
    | ok directory =>
      simp only [hResolve, Bind.bind, Except.bind] at h
      split at h
      · rename_i entries name hDirectory hLast
        split at h
        · cases h
        · rename_i hUp
          cases h
          obtain ⟨d, rfl⟩ := List.getLast?_eq_some_iff.mp hLast
          rw [List.dropLast_concat] at hResolve
          -- a last step that leads somewhere would not be missing
          rw [resolve, resolveFrom_append, ← resolve, hResolve] at hMissing
          change resolveFrom root directory [name] = _ at hMissing
          rw [resolveFrom_singleton hDirectory hUp] at hMissing
          split at hMissing
          · cases hMissing
          · rename_i hStay
            split at hMissing
            · cases hMissing
            · rename_i hNew
              exact .new name entries hResolve hDirectory ⟨hStay, hUp⟩ (by simpa using hNew)
      · cases h
      · cases h
      · cases h
  · cases h

theorem at?_putFile (h : WritesAt root p place) (content : ByteArray) :
    (root.putFile place content).at? place = some (.file content) := by
  cases h with
  | old _ _ hFile => exact at?_put hFile
  | new name entries _ hDirectory _ hNew => exact at?_put_new hDirectory hNew

theorem WritesAt.not_directory (h : WritesAt root p place) (entries : List (String × Tree)) :
    root.at? place ≠ some (.directory entries) := by
  cases h with
  | old _ _ hFile => simp [hFile]
  | new name entries _ hDirectory _ hNew =>
    simp [at?_append, hDirectory, at?, hNew]

theorem resolve_putFile (h : WritesAt root p place) (content : ByteArray) :
    (root.putFile place content).resolve p = .ok place := by
  have hKeeps : Keeps root (root.putFile place content) := keeps_put h.not_directory
  cases h with
  | old _ hResolve _ => exact resolveFrom_of_keeps hKeeps hResolve
  | @new p place name entries hResolve hDirectory hName hNew =>
    obtain ⟨entries', hDirectory', -⟩ := hKeeps _ _ hDirectory
    have hThere : (Names.get? entries' name).isSome = true := by
      have hAt := at?_put_new (f := fun _ => .file content) hDirectory hNew
      rw [at?_append] at hAt
      change ((root.putFile (place ++ [name]) content).at? place).bind _ = _ at hAt
      rw [hDirectory', Option.bind_some, at?] at hAt
      cases hEntry : Names.get? entries' name with
      | none =>
        rw [hEntry] at hAt
        cases hAt
      | some _ => rfl
    have hResolve' : resolveFrom (root.putFile (place ++ [name]) content) [] p = .ok place :=
      resolveFrom_of_keeps hKeeps hResolve
    rw [resolve, resolveFrom_append, hResolve']
    change resolveFrom _ place [name] = _
    rw [resolveFrom_singleton hDirectory' hName.2, if_neg hName.1, if_pos hThere]

theorem read_of_write (h : root.write p text = .ok t) : t.read p = .ok text := by
  rw [write] at h
  cases hWritable : root.writable p with
  | error e =>
    rw [hWritable] at h
    cases h
  | ok place =>
    rw [hWritable] at h
    cases h
    have hWrites := writesAt_of_writable hWritable
    simp only [read, resolve_putFile hWrites, Bind.bind, Except.bind, at?_putFile hWrites,
      fromUTF8?_toUTF8]

end Write

end Tree

end ScriptBridge
