import ScriptBridge.Proofs.Config.Nearest
import ScriptBridge.Proofs.Config.Omitted
import ScriptBridge.Proofs.Files.Written

/-!
# Saved configurations

A configuration that was saved is loaded again as it was. The one that cannot be saved has a memory
limit beyond the whole numbers of TOML, and nothing is written for it. What a saved configuration
has in common with the default one may be missing from it.
-/
namespace ScriptBridge
set_option autoImplicit false

namespace Config

open Toml

variable {c : Config} {d : Deletion} {root t : Tree} {p : Path}

/-- The memory limit is no whole number of 64 bits with a sign. -/
def Oversized (c : Config) : Prop :=
  ∃ n : Nat, c.runtime.memoryLimit = some n ∧ Int64.maxValue.toInt < n

theorem oversized_iff : c.Oversized ↔ ∃ n, c.runtime.memoryLimit = some n ∧ 2 ^ 63 ≤ n := by
  have hGreatest : Int64.maxValue.toInt = 2 ^ 63 - 1 := Int64.toInt_maxValue
  rw [Oversized, hGreatest]
  refine exists_congr fun n => and_congr_right fun _ => ?_
  omega

theorem isWritable_iff : c.isWritable = true ↔ ¬ c.Oversized := by
  rw [isWritable, oversized_iff]
  cases c.runtime.memoryLimit with
  | none => simp
  | some n =>
    have hGreatest : greatestCount = 2 ^ 63 - 1 := rfl
    simp [hGreatest]
    omega

theorem limit_lt (h : ¬ c.Oversized) : ∀ n, c.runtime.memoryLimit = some n → n < 2 ^ 63 := by
  intro n hn
  by_contra hNot
  exact h (oversized_iff.mpr ⟨n, hn, by omega⟩)

theorem save_of_oversized (h : c.Oversized) : c.save root p = .error .unwritable := by
  have hWritable : ¬ c.isWritable = true := fun hWritable => isWritable_iff.mp hWritable h
  rw [save, print?, if_neg hWritable]

theorem save_of_not_oversized (h : ¬ c.Oversized) :
    c.save root p = (root.write p (print c.sections)).mapError .refused := by
  rw [save, print?, if_pos (isWritable_iff.mpr h)]

/-- The files once saving was tried. -/
def filesAfterSave (c : Config) (root : Tree) (p : Path) : Tree :=
  match c.save root p with
  | .ok t => t
  | .error _ => root

section Plain

/-- A section whose settings are fields, each once, by bare names. -/
theorem plain_of_fields {σ : Type} (fields : List (Field σ)) {s : Section} (hName : BareName s.name)
    (hBare : ∀ name ∈ fields.map Field.name, BareName name) (hDistinct : (fields.map Field.name).Nodup)
    (hFields : (s.settings.map Prod.fst).Sublist (fields.map Field.name))
    (hFits : ∀ e ∈ s.settings, e.2.Fits) : s.Plain where
  name := hName
  settings e he := ⟨hBare _ (hFields.subset (List.mem_map_of_mem he)), hFits e he⟩
  distinct := hDistinct.sublist hFields

theorem plain_codec (c : CodecConfig) : Section.Plain ⟨"codec", c.settings⟩ := by
  have hName : BareName "codec" := by decide
  refine plain_of_fields CodecConfig.fields hName (by decide) (by decide) (.refl _) ?_
  simp [CodecConfig.settings, Setting.Fits]

theorem plain_runtime {c : RuntimeConfig} (h : ∀ n, c.memoryLimit = some n → n < 2 ^ 63) :
    Section.Plain ⟨"runtime", c.settings⟩ := by
  have hName : BareName "runtime" := by decide
  obtain ⟨libraries, limit⟩ := c
  cases limit with
  | none =>
    refine plain_of_fields RuntimeConfig.fields hName (by decide) (by decide) ?_ ?_
    · exact .cons_cons _ (List.nil_sublist _)
    · simp [RuntimeConfig.settings, Setting.Fits]
  | some n =>
    refine plain_of_fields RuntimeConfig.fields hName (by decide) (by decide) (.refl _) ?_
    simpa [RuntimeConfig.settings, Setting.Fits] using h n rfl

theorem plain_logging (c : LoggingConfig) : Section.Plain ⟨"logging", c.settings⟩ := by
  have hName : BareName "logging" := by decide
  obtain ⟨level, format, filter⟩ := c
  cases filter with
  | none =>
    refine plain_of_fields LoggingConfig.fields hName (by decide) (by decide) ?_ ?_
    · exact .cons_cons _ (.cons_cons _ (List.nil_sublist _))
    · simp [LoggingConfig.settings, Setting.Fits]
  | some s =>
    refine plain_of_fields LoggingConfig.fields hName (by decide) (by decide) (.refl _) ?_
    simp [LoggingConfig.settings, Setting.Fits]

theorem plain_sections (h : ¬ c.Oversized) : ∀ s ∈ c.sections, s.Plain := by
  simp only [sections, List.forall_mem_cons]
  exact ⟨plain_codec c.codec, plain_runtime (limit_lt h), plain_logging c.logging, by simp⟩

end Plain

end Config

namespace Deletion

open Toml

variable {c : Config} {d : Deletion}

theorem plain_within {s : Section} (h : s.Plain) : (d.within s).Plain where
  name := h.name
  settings e he := h.settings e (List.mem_filter.mp he).1
  distinct := h.distinct.sublist (List.filter_sublist.map _)

theorem read?_print_leaves (h : ¬ c.Oversized) :
    read? (print (d.leaves c.sections)) = some ((d.leaves c.sections).map Section.entry) := by
  refine read?_print ?_ ?_
  · intro s hs
    obtain ⟨whole, hWhole, rfl⟩ := List.mem_map.mp hs
    exact plain_within (Config.plain_sections h whole (List.mem_filter.mp hWhole).1)
  · rw [leaves, List.map_map]
    have hNames : (c.sections.map Section.name).Nodup := by
      change ["codec", "runtime", "logging"].Nodup
      decide
    exact hNames.sublist (List.filter_sublist.map _)

theorem parse_of_read? (h : ¬ c.Oversized) (hSpares : d.Spares c) {text : String}
    (hRead : read? text = some ((d.leaves c.sections).map Section.entry)) :
    Config.parse text = .ok c := by
  rw [Config.parse, hRead]
  simp only [ofEntries_leaves hSpares (Config.limit_lt h)]
  rfl

/-- Takes nothing out. -/
def nothing : Deletion := ⟨fun _ => false, fun _ _ => false⟩

theorem leaves_nothing (sections : List Section) : nothing.leaves sections = sections := by
  have hWithin : nothing.within = id := by
    funext s
    simp [nothing, within]
  rw [leaves, hWithin, List.map_id]
  simp [nothing]

theorem spares_nothing (c : Config) : nothing.Spares c := ⟨fun _ _ => nofun, fun _ _ _ _ => nofun⟩

end Deletion

namespace Config

variable {c : Config} {root t : Tree} {p place : Path}

theorem parse_print (h : ¬ c.Oversized) : parse (Toml.print c.sections) = .ok c := by
  have hRead := Deletion.read?_print_leaves (d := .nothing) h
  rw [Deletion.leaves_nothing] at hRead
  refine Deletion.parse_of_read? h (Deletion.spares_nothing c) ?_
  rwa [Deletion.leaves_nothing]

theorem load_of_save (h : c.save root p = .ok t) : load t p = .ok c := by
  by_cases hOversized : c.Oversized
  · rw [save_of_oversized hOversized] at h
    cases h
  · rw [save_of_not_oversized hOversized] at h
    cases hWrite : root.write p (Toml.print c.sections) with
    | error e =>
      rw [hWrite] at h
      cases h
    | ok u =>
      rw [hWrite] at h
      cases h
      simp only [load, Tree.read_of_write hWrite, parse_print hOversized]
      rfl

theorem oversized_of_save (h : c.save root p = .error .unwritable) : c.Oversized := by
  by_contra hNot
  rw [save_of_not_oversized hNot] at h
  cases hWrite : root.write p (Toml.print c.sections) <;> rw [hWrite] at h <;> cases h

theorem exists_save (h : ¬ c.Oversized) (hPlace : root.writable p = .ok place) :
    ∃ t, c.save root p = .ok t := by
  rw [save_of_not_oversized h, Tree.write, hPlace]
  exact ⟨_, rfl⟩

end Config

/-- Saving fails for the configuration as such exactly if its memory limit is beyond 64 bits with a
sign, and leaves the files as they were. Otherwise it gives a file wherever one can be written, and
loading that file gives the configuration back. Any of its settings and sections that are as in the
default configuration may be taken out of the document: what is left is still the configuration. -/
theorem saved_config_reads_back (c : Config) (root : Tree) (p : Path) :
    (c.save root p = .error .unwritable ↔ c.Oversized) ∧
      (c.Oversized → c.filesAfterSave root p = root) ∧
      (∀ t, c.save root p = .ok t → Config.load t p = .ok c) ∧
      (¬ c.Oversized →
        (∀ place, root.writable p = .ok place → ∃ t, c.save root p = .ok t) ∧
        ∀ d : Deletion, d.Spares c →
          Toml.read? (Toml.print (d.leaves c.sections)) =
            some ((d.leaves c.sections).map Toml.Section.entry) ∧
          ∀ text, Toml.read? text = some ((d.leaves c.sections).map Toml.Section.entry) →
            Config.parse text = .ok c) := by
  refine ⟨⟨Config.oversized_of_save, Config.save_of_oversized⟩, ?_, fun t => Config.load_of_save,
    fun h => ⟨?_, ?_⟩⟩
  · intro h
    rw [Config.filesAfterSave, Config.save_of_oversized h]
  · exact fun place => Config.exists_save h
  · exact fun d hSpares => ⟨Deletion.read?_print_leaves h, fun text =>
      Deletion.parse_of_read? h hSpares⟩

/-- Texts with quotes of both kinds, line ends and characters that are escaped; the codec section and
the level of the log are taken out again. One more byte of memory cannot be saved. -/
theorem saved_config_reads_back_quotes :
    let runtime : RuntimeConfig :=
      { libraries := ["", "a\"b\\c", "\"\"\" and \'\'\'\n\x7f"], memoryLimit := some (2 ^ 63 - 1) }
    let c : Config := { runtime, logging := { format := .json, filter := some "\r\n" } }
    let large : Config := { runtime := { runtime with memoryLimit := some (2 ^ 63) } }
    let root := Tree.directory [("scripts", .directory [])]
    let p := ["scripts", Config.fileName]
    let d : Deletion := ⟨(· == "codec"), fun name key => name == "logging" && key == "level"⟩
    (large.Oversized ∧ large.save root p = .error .unwritable ∧ large.filesAfterSave root p = root) ∧
      (¬ c.Oversized ∧ root.writable p = .ok p ∧
        ∃ t, c.save root p = .ok t ∧ Config.load t p = .ok c) ∧
      d.Spares c ∧ Config.parse (Toml.print (d.leaves c.sections)) = .ok c := by
  intro runtime c large root p d
  have hLarge : large.Oversized := ⟨2 ^ 63, rfl, by decide⟩
  have hFits : ¬ c.Oversized := by
    rintro ⟨n, hn, hLess⟩
    cases hn
    exact absurd hLess (by decide)
  have hPlace : root.writable p = .ok p := rfl
  have hSpares : d.Spares c := ⟨by decide, by decide⟩
  obtain ⟨hRefused, hUntouched, -, -⟩ := saved_config_reads_back large root p
  obtain ⟨-, -, hLoaded, hOther⟩ := saved_config_reads_back c root p
  obtain ⟨hSaved, hParsed⟩ := hOther hFits
  obtain ⟨t, ht⟩ := hSaved p hPlace
  obtain ⟨hRead, hParse⟩ := hParsed d hSpares
  exact ⟨⟨hLarge, hRefused.mpr hLarge, hUntouched hLarge⟩, ⟨hFits, hPlace, t, ht, hLoaded t ht⟩,
    hSpares, hParse _ hRead⟩

end ScriptBridge
