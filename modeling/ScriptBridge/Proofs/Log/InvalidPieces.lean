import ScriptBridge.Proofs.Log.Decisive

/-!
# Pieces that are no directives

The settings stand in with their level for a piece of the text that is no directive. They begin with
that level, so such a piece changes nothing, unless a directive for all events came before it: that
one is replaced. Main statement: the text lets through what its valid part does, exactly unless the
last directive for all events sets another level than the settings and a piece after it is invalid;
then it lets through what the valid part does with the level of the settings set again at its end.
-/
namespace ScriptBridge
set_option autoImplicit false

theorem not_mem_of_mem_splitOn {x : Char} {text piece : List Char} (h : piece ∈ text.splitOn x) :
    x ∉ piece := by
  induction text generalizing piece with
  | nil =>
    rw [List.splitOn_nil, List.mem_singleton] at h
    exact h ▸ List.not_mem_nil
  | cons c text ih =>
    rw [List.splitOn_cons_eq_if_modifyHead] at h
    split at h
    · rcases List.mem_cons.mp h with rfl | hRest
      · exact List.not_mem_nil
      · exact ih hRest
    · rename_i hOther
      cases hSplit : text.splitOn x with
      | nil => exact absurd hSplit (List.splitOn_ne_nil x text)
      | cons first rest =>
        rw [hSplit, List.modifyHead_cons] at h
        rw [hSplit] at ih
        rcases List.mem_cons.mp h with rfl | hRest
        · intro hMem
          rcases List.mem_cons.mp hMem with rfl | hFirst
          · exact hOther (beq_self_eq_true x)
          · exact ih List.mem_cons_self hFirst
        · exact ih (List.mem_cons_of_mem _ hRest)

namespace LogSettings

variable {G : Grammar} {s : LogSettings} {piece : String} {pieces after : List String}
  {d : Directive} {c : Callsite}

/-- The pieces of the text that are directives. -/
def validPieces (G : Grammar) (s : LogSettings) : List String :=
  s.pieces.filter G.reads

/-- The settings with the valid pieces for their text, and without text if there are none. -/
def validPart (G : Grammar) (s : LogSettings) : LogSettings :=
  { s with
    filter := if s.validPieces G = [] then none else some (",".intercalate (s.validPieces G)) }

theorem comma_not_mem_of_mem_pieces (h : piece ∈ s.pieces) : ',' ∉ piece.toList := by
  rw [pieces] at h
  split at h
  · cases h
  · obtain ⟨chars, hChars, rfl⟩ := List.mem_map.mp h
    rw [String.toList_ofList]
    exact not_mem_of_mem_splitOn hChars

theorem pieces_validPart : (s.validPart G).pieces = s.validPieces G := by
  by_cases hNone : s.validPieces G = []
  · rw [validPart, if_pos hNone, hNone]
    rfl
  · have hCommas : ∀ chars ∈ (s.validPieces G).map String.toList, ',' ∉ chars := by
      intro chars hChars
      obtain ⟨piece, hPiece, rfl⟩ := List.mem_map.mp hChars
      exact comma_not_mem_of_mem_pieces (List.mem_of_mem_filter hPiece)
    rw [validPart, if_neg hNone, pieces]
    dsimp only
    rw [String.toList_intercalate]
    change ((List.intercalate [','] _).splitOn ',').map String.ofList = _
    rw [List.splitOn_intercalate ',' hCommas (mt List.map_eq_nil_iff.mp hNone), List.map_map]
    exact List.map_id'' (fun piece => String.ofList_toList) _

theorem directives_validPart : (s.validPart G).directives G =
    .ofList (s.base :: (s.validPieces G).map (s.directive G)) := by
  rw [directives, pieces_validPart]
  rfl

theorem isGeneral_base : s.base.isGeneral = true := rfl

theorem directive_of_read? (h : G.read? piece = some d) : s.directive G piece = d := by
  rw [directive, h, Option.getD_some]

theorem directive_of_invalid (h : G.read? piece = none) : s.directive G piece = s.base := by
  rw [directive, h, Option.getD_none]

/-- Invalid pieces leave no trace among the directives for a target, a span or a field. -/
theorem particular_directives :
    (s.directives G).particular = ((s.validPart G).directives G).particular := by
  have hValid : ∀ piece ∈ s.pieces,
      (!(s.directive G piece).isGeneral && G.reads piece) =
        !(s.directive G piece).isGeneral := by
    intro piece _
    cases hRead : G.read? piece with
    | some d => rw [Grammar.reads, hRead, Option.isSome_some, Bool.and_true]
    | none => rw [directive_of_invalid hRead, isGeneral_base]; rfl
  rw [directives, directives_validPart, Filter.particular_ofList, Filter.particular_ofList,
    List.filter_cons_of_neg (by rw [isGeneral_base]; exact Bool.false_ne_true),
    List.filter_cons_of_neg (by rw [isGeneral_base]; exact Bool.false_ne_true),
    List.filter_map, List.filter_map, validPieces, List.filter_filter]
  exact congrArg (fun pieces => Filter.ofList (pieces.map (s.directive G)))
    (List.filter_congr hValid).symm

/-- No directive among the pieces is for all events. -/
def Particular (G : Grammar) (pieces : List String) : Prop :=
  ∀ piece ∈ pieces, ∀ d, G.read? piece = some d → d.isGeneral = false

/-- The last directive for all events sets another level than the settings, and a piece after it is
invalid. -/
def LevelRestored (G : Grammar) (s : LogSettings) : Prop :=
  ∃ before piece after d, s.pieces = before ++ piece :: after ∧ G.read? piece = some d ∧
    d.isGeneral = true ∧ d.level ≠ some s.level ∧ Particular G after ∧
    ∃ invalid ∈ after, G.read? invalid = none

theorem eq_base_of_particular (h : Particular G pieces) (hPiece : piece ∈ pieces)
    (hGeneral : (s.directive G piece).isGeneral) : s.directive G piece = s.base := by
  cases hRead : G.read? piece with
  | none => exact directive_of_invalid hRead
  | some d =>
    rw [directive_of_read? hRead, h piece hPiece d hRead] at hGeneral
    cases hGeneral

/-- Invalid pieces set the level of the settings. -/
theorem getLast?_of_invalid (h : Particular G pieces) (hPiece : piece ∈ pieces)
    (hInvalid : G.read? piece = none) :
    ((pieces.map (s.directive G)).filter (·.isGeneral)).getLast? = some s.base := by
  have hMem : s.base ∈ (pieces.map (s.directive G)).filter (·.isGeneral) :=
    List.mem_filter.mpr
      ⟨List.mem_map.mpr ⟨piece, hPiece, directive_of_invalid hInvalid⟩, isGeneral_base⟩
  cases hLast : ((pieces.map (s.directive G)).filter (·.isGeneral)).getLast? with
  | none =>
    rw [List.getLast?_eq_none_iff.mp hLast] at hMem
    cases hMem
  | some last =>
    obtain ⟨hMap, hGeneral⟩ := List.mem_filter.mp (List.mem_of_getLast? hLast)
    obtain ⟨other, hOther, rfl⟩ := List.mem_map.mp hMap
    rw [eq_base_of_particular h hOther hGeneral]

/-- Without invalid pieces nothing is for all events. -/
theorem filter_of_valid (h : Particular G pieces)
    (hValid : ∀ piece ∈ pieces, G.read? piece ≠ none) :
    (pieces.map (s.directive G)).filter (·.isGeneral) = [] := by
  refine List.filter_eq_nil_iff.mpr fun d hMem => ?_
  obtain ⟨piece, hPiece, rfl⟩ := List.mem_map.mp hMem
  obtain ⟨d, hRead⟩ := Option.ne_none_iff_exists'.mp (hValid piece hPiece)
  rw [directive_of_read? hRead, h piece hPiece d hRead]
  exact Bool.false_ne_true

theorem exists_last_general (G : Grammar) (pieces : List String) : Particular G pieces ∨
    ∃ before piece after d, pieces = before ++ piece :: after ∧ G.read? piece = some d ∧
      d.isGeneral = true ∧ Particular G after := by
  induction pieces with
  | nil => exact .inl nofun
  | cons piece rest ih =>
    rcases ih with hRest | ⟨before, last, after, d, rfl, hLast⟩
    · by_cases hPiece : ∃ d, G.read? piece = some d ∧ d.isGeneral = true
      · obtain ⟨d, hRead, hGeneral⟩ := hPiece
        exact .inr ⟨[], piece, rest, d, rfl, hRead, hGeneral, hRest⟩
      · refine .inl fun other hOther d hRead => ?_
        rcases List.mem_cons.mp hOther with rfl | hLater
        · exact Bool.eq_false_iff.mpr fun hGeneral => hPiece ⟨d, hRead, hGeneral⟩
        · exact hRest other hLater d hRead
    · exact .inr ⟨piece :: before, last, after, d, rfl, hLast⟩

/-- Pieces of which none is for all events leave the directive for them as it was, unless one is
invalid: that one sets the level of the settings. -/
theorem general?_of_particular (ds : List Directive) (hd : d.isGeneral) (h : Particular G after) :
    (Filter.ofList (ds ++ d :: after.map (s.directive G))).general? =
      some (if ∃ invalid ∈ after, G.read? invalid = none then s.base else d) := by
  rw [Filter.general?_ofList_append_cons hd]
  split
  · rename_i hInvalid
    obtain ⟨invalid, hMem, hRead⟩ := hInvalid
    rw [getLast?_of_invalid h hMem hRead, Option.getD_some]
  · rename_i hValid
    rw [filter_of_valid h fun piece hMem hRead => hValid ⟨piece, hMem, hRead⟩]
    rfl

theorem particular_valid (h : Particular G pieces) :
    Particular G (pieces.filter G.reads) :=
  fun piece hPiece => h piece (List.mem_of_mem_filter hPiece)

theorem not_exists_invalid_valid :
    ¬ ∃ invalid ∈ pieces.filter G.reads, G.read? invalid = none := by
  rintro ⟨invalid, hMem, hRead⟩
  have hValid := (List.mem_filter.mp hMem).2
  rw [Grammar.reads, hRead] at hValid
  cases hValid

/-- Where no piece is for all events, the level of the settings holds. -/
theorem general?_of_none (h : Particular G s.pieces) :
    (s.directives G).general? = some s.base ∧
      ((s.validPart G).directives G).general? = some s.base := by
  have hBase : s.base.isGeneral = true := isGeneral_base
  have hAll := general?_of_particular (s := s) [] hBase h
  have hValid := general?_of_particular (s := s) [] hBase (particular_valid h)
  rw [ite_self] at hAll hValid
  rw [directives_validPart]
  exact ⟨hAll, hValid⟩

/-- Where some piece is the last one for all events, it holds unless an invalid piece follows, and
in the valid part in any case. -/
theorem general?_of_last {before : List String} (hPieces : s.pieces = before ++ piece :: after)
    (hRead : G.read? piece = some d) (hGeneral : d.isGeneral) (h : Particular G after) :
    (s.directives G).general? =
        some (if ∃ invalid ∈ after, G.read? invalid = none then s.base else d) ∧
      ((s.validPart G).directives G).general? = some d := by
  have hAll := general?_of_particular (s := s) (s.base :: before.map (s.directive G)) hGeneral h
  have hValid := general?_of_particular (s := s)
    (s.base :: (before.filter G.reads).map (s.directive G)) hGeneral (particular_valid h)
  have hReads : G.reads piece = true := by rw [Grammar.reads, hRead, Option.isSome_some]
  have hKept : s.validPieces G = before.filter G.reads ++ piece :: after.filter G.reads := by
    rw [validPieces, hPieces, List.filter_append, List.filter_cons_of_pos hReads]
  rw [if_neg not_exists_invalid_valid] at hValid
  rw [directives_validPart, directives, hPieces, hKept, List.map_append, List.map_append,
    List.map_cons, List.map_cons, directive_of_read? hRead]
  exact ⟨hAll, hValid⟩

theorem general?_restored (h : s.LevelRestored G) : (s.directives G).general? = some s.base ∧
    ∃ d, ((s.validPart G).directives G).general? = some d ∧ d.level ≠ some s.level := by
  obtain ⟨before, piece, after, d, hPieces, hRead, hGeneral, hLevel, hParticular, hInvalid⟩ := h
  obtain ⟨hAll, hValid⟩ := general?_of_last hPieces hRead hGeneral hParticular
  rw [if_pos hInvalid] at hAll
  exact ⟨hAll, d, hValid, hLevel⟩

theorem general?_of_not_restored (h : ¬ s.LevelRestored G) :
    (s.directives G).general? = ((s.validPart G).directives G).general? := by
  rcases exists_last_general G s.pieces with
    hNone | ⟨before, piece, after, d, hPieces, hRead, hGeneral, hParticular⟩
  · obtain ⟨hAll, hValid⟩ := general?_of_none hNone
    rw [hAll, hValid]
  · obtain ⟨hAll, hValid⟩ := general?_of_last hPieces hRead hGeneral hParticular
    rw [hAll, hValid]
    split
    · rename_i hInvalid
      by_cases hLevel : d.level = some s.level
      · rw [Directive.eq_of_isGeneral hGeneral isGeneral_base hLevel]
      · exact absurd ⟨before, piece, after, d, hPieces, hRead, hGeneral, hLevel, hParticular,
          hInvalid⟩ h
    · rfl

/-- The empty target, of an event without fields, is for no directive but one for all events. -/
theorem decisive?_particular_of_empty (l : Level) :
    (s.directives G).particular.decisive? ⟨"", l, []⟩ = none := by
  refine Filter.decisive?_eq_none fun d hMem => Bool.eq_false_iff.mpr fun hCovers => ?_
  have hParticular := Filter.isGeneral_of_mem_particular hMem
  have hTarget : d.target ≠ some "" := by
    have hAdded := Filter.mem_of_mem_ofList (List.mem_of_mem_filter hMem)
    rcases List.mem_cons.mp hAdded with rfl | hPiece
    · exact nofun
    · obtain ⟨piece, -, rfl⟩ := List.mem_map.mp hPiece
      cases hRead : G.read? piece with
      | none => rw [directive_of_invalid hRead]; exact nofun
      | some d => rw [directive_of_read? hRead]; exact G.target_ne piece d hRead
  rw [Directive.isGeneral_of_covers_empty hCovers hTarget] at hParticular
  cases hParticular

theorem not_restored_of_admits
    (h : ∀ c, (s.directives G).admits c = ((s.validPart G).directives G).admits c) :
    ¬ s.LevelRestored G := by
  intro hRestored
  obtain ⟨hAll, d, hValid, hLevel⟩ := general?_restored hRestored
  have hLets (l : Level) : s.base.lets l = d.lets l := by
    have hSame := h ⟨"", l, []⟩
    rw [Filter.admits_eq_or, Filter.admits_eq_or, ← particular_directives,
      decisive?_particular_of_empty, hAll, hValid] at hSame
    exact hSame
  exact hLevel (Directive.level_eq_of_lets hLets).symm

end LogSettings

/-- The text of the log settings lets through what its valid part does, unless a piece that is no
directive follows the last one for all events and that one sets another level than the settings. It
then lets through what the valid part does with the level of the settings set again at the end. The
directives for a target, a span or a field are those of the valid part in any case. -/
theorem invalid_pieces_inert_or_restoring (G : Grammar) (s : LogSettings) :
    (s.directives G).particular = ((s.validPart G).directives G).particular ∧
    ((∀ c, (s.directives G).admits c = ((s.validPart G).directives G).admits c) ↔
      ¬ s.LevelRestored G) ∧
    (s.LevelRestored G → ∀ c, (s.directives G).admits c =
      (((s.validPart G).directives G).add s.base).admits c) := by
  refine ⟨LogSettings.particular_directives, ⟨LogSettings.not_restored_of_admits, ?_⟩, ?_⟩
  · intro hInert c
    exact Filter.admits_congr LogSettings.particular_directives
      (LogSettings.general?_of_not_restored hInert)
  · intro hRestored c
    refine Filter.admits_congr ?_ ?_
    · rw [Filter.particular_add_general LogSettings.isGeneral_base]
      exact LogSettings.particular_directives
    · rw [Filter.general?_add_general LogSettings.isGeneral_base]
      exact (LogSettings.general?_restored hRestored).1

example :
    let s : LogSettings := { level := .info, filter := some "!!,error,laf=debug" }
    s.directives .standard = (s.validPart .standard).directives .standard := by
  decide +kernel

/-- Errors alone are asked for, and the piece after that is no directive: warnings are let through
again, which without that piece they are not. -/
theorem level_restored_after_errors :
    let s : LogSettings := { level := .info, filter := some "error,!!" }
    let e : Event := .configRejected "/laf.toml" "Failed to parse config"
    s.invalidPieces .standard = ["!!"] ∧ (s.validPart .standard).filter = some "error" ∧
      (s.directives .standard).enables e = true ∧
      ((s.validPart .standard).directives .standard).enables e = false := by
  decide +kernel

end ScriptBridge
