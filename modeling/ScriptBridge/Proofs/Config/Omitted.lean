import ScriptBridge.Config.Writing
import ScriptBridge.Proofs.Toml.Document

/-!
# Settings that are left out

What a section means if settings are missing from it. Settings are read one after the other, and one
that has its default is read while its field still has that default. So it changes nothing there,
and nothing changes if it is missing. Whole sections are left out in the same way.
-/
namespace ScriptBridge
set_option autoImplicit false

variable {σ ε : Type}

/-- Entries that are read in their order bring `s` to `s'`, and a spare one changes nothing. -/
inductive Fills (step : σ → ε → Except Problem σ) (Spare : ε → Prop) : σ → List ε → σ → Prop
  | nil {s : σ} : Fills step Spare s [] s
  | cons {s s'' : σ} (s' : σ) {e : ε} {es : List ε} (h : step s e = .ok s') (hSpare : Spare e → s' = s)
    (hRest : Fills step Spare s' es s'') : Fills step Spare s (e :: es) s''

theorem Fills.foldlM_filter {step : σ → ε → Except Problem σ} {Spare : ε → Prop} {keep : ε → Bool}
    {s s' : σ} {es : List ε} (h : Fills step Spare s es s')
    (hKeep : ∀ e ∈ es, keep e = false → Spare e) : (es.filter keep).foldlM step s = .ok s' := by
  induction h with
  | nil => rfl
  | @cons s s'' s' e es h hSpare _ ih =>
    obtain ⟨hHere, hMore⟩ := List.forall_mem_cons.mp hKeep
    cases hKept : keep e with
    | true =>
      rw [List.filter_cons_of_pos hKept, List.foldlM_cons, h]
      exact ih hMore
    | false =>
      rw [List.filter_cons_of_neg (Bool.eq_false_iff.mp hKept), ← hSpare (hHere hKept)]
      exact ih hMore

/-- Entries that say all of two outcomes bring the same start to the same outcome. -/
theorem Fills.unique {step : σ → ε → Except Problem σ} {Spare Spare' : ε → Prop} {s s' s'' : σ}
    {es : List ε} (h : Fills step Spare s es s') (h' : Fills step Spare' s es s'') : s' = s'' := by
  have hAll : (es.filter fun _ => true).foldlM step s = .ok s' :=
    h.foldlM_filter fun _ _ => nofun
  have hAll' : (es.filter fun _ => true).foldlM step s = .ok s'' :=
    h'.foldlM_filter fun _ _ => nofun
  exact Except.ok.inj (hAll.symm.trans hAll')

section Sections

open Toml

/-- Reads one setting of a section. -/
def readSetting (fields : List (Field σ)) (s : σ) (e : String × Setting) : Except Problem σ :=
  Field.setNamed fields s (pairEntry e)

theorem CodecConfig.fills (c : CodecConfig) :
    Fills (readSetting fields) (· ∈ ({} : CodecConfig).settings) unset c.settings c := by
  obtain ⟨coercion, toText, toNumber⟩ := c
  refine .cons { unset with integerCoercion := coercion } ?_ ?_ <|
    .cons { unset with integerCoercion := coercion, numberToString := toText } ?_ ?_ <|
    .cons _ ?_ ?_ .nil
  · cases coercion <;> rfl
  · intro hSpare
    cases coercion with
    | exact => rfl
    | truncate => simp [settings, IntegerCoercion.name] at hSpare
  · rfl
  · intro hSpare
    cases toText with
    | true => rfl
    | false => simp [settings] at hSpare
  · rfl
  · intro hSpare
    cases toNumber with
    | true => simp [settings] at hSpare
    | false => rfl

theorem texts?_map_text (items : List String) :
    Toml.Value.texts? (.array (items.map .text)) = .ok items := by
  change (items.map Toml.Value.text).mapM Toml.Value.text? = _
  induction items with
  | nil => rfl
  | cons s items ih =>
    rw [List.map_cons, List.mapM_cons, ih]
    rfl

theorem count?_ofNat {n : Nat} (h : n < 2 ^ 63) :
    Toml.Value.count? (.integer (Int64.ofNat n)) = .ok n := by
  have hInt : (Int64.ofNat n).toInt = n := Int64.toInt_ofNat_of_lt h
  simp [Toml.Value.count?, hInt]

theorem RuntimeConfig.fills {c : RuntimeConfig} (h : ∀ n, c.memoryLimit = some n → n < 2 ^ 63) :
    Fills (readSetting fields) (· ∈ ({} : RuntimeConfig).settings) unset c.settings c := by
  obtain ⟨libraries, limit⟩ := c
  refine .cons { unset with libraries } ?_ ?_ ?_
  · change (do return { unset with libraries := ← Toml.Value.texts? (.array (libraries.map .text)) }) =
      Except.ok _
    rw [texts?_map_text]
    rfl
  · intro hSpare
    have hNone : libraries = [] := by simpa [settings] using hSpare
    rw [hNone]
    rfl
  · cases limit with
    | none => exact .nil
    | some n =>
      refine .cons _ ?_ ?_ .nil
      · change (do
          let count ← Toml.Value.count? (.integer (Int64.ofNat n))
          return { unset with libraries, memoryLimit := some count }) = _
        rw [count?_ofNat (h n rfl)]
        rfl
      · intro hSpare
        simp [settings] at hSpare

theorem LoggingConfig.fills (c : LoggingConfig) :
    Fills (readSetting fields) (· ∈ ({} : LoggingConfig).settings) unset c.settings c := by
  obtain ⟨level, format, filter⟩ := c
  refine .cons { unset with level } rfl ?_ <|
    .cons { unset with level, format } ?_ ?_ ?_
  · intro hSpare
    have hLevel : level = "info" := by simpa [settings] using hSpare
    rw [hLevel]
    rfl
  · cases format <;> rfl
  · intro hSpare
    cases format with
    | pretty => rfl
    | compact => simp [settings, LogFormat.name] at hSpare
    | json => simp [settings, LogFormat.name] at hSpare
  · cases filter with
    | none => exact .nil
    | some s =>
      refine .cons _ rfl ?_ .nil
      intro hSpare
      simp [settings] at hSpare

end Sections

/-- What is taken out of a document: whole sections, and settings of those that stay. -/
structure Deletion where
  ofSection : String → Bool
  ofSetting : String → String → Bool

namespace Deletion

open Toml

variable {d : Deletion} {c : Config}

def within (d : Deletion) (s : Section) : Section :=
  { s with settings := s.settings.filter fun e => !d.ofSetting s.name e.1 }

def leaves (d : Deletion) (sections : List Section) : List Section :=
  (sections.filter fun s => !d.ofSection s.name).map d.within

/-- Only what is as in the default configuration is taken out. -/
structure Spares (d : Deletion) (c : Config) : Prop where
  sections : ∀ s ∈ c.sections, d.ofSection s.name = true → s ∈ ({} : Config).sections
  settings : ∀ s ∈ c.sections, ∀ e ∈ s.settings, d.ofSetting s.name e.1 = true →
    ∃ s' ∈ ({} : Config).sections, s'.name = s.name ∧ e ∈ s'.settings

theorem Spares.fromEntries_within {fields : List (Field σ)} {s s' : σ}
    {settings default : List (String × Setting)} (h : d.Spares c) (name : String)
    (hMem : ⟨name, settings⟩ ∈ c.sections)
    (hDefault : ∀ s ∈ ({} : Config).sections, s.name = name → s.settings = default)
    (hFills : Fills (readSetting fields) (· ∈ default) s settings s') :
    Field.fromEntries fields s ((d.within ⟨name, settings⟩).settings.map pairEntry) = .ok s' := by
  rw [Field.fromEntries, List.foldlM_map]
  refine hFills.foldlM_filter fun e he hTaken => ?_
  obtain ⟨s, hs, hName, heDefault⟩ := h.settings _ hMem e he (by simpa using hTaken)
  exact hDefault s hs hName ▸ heDefault

/-- Reads what is left of one section. -/
def readSection (d : Deletion) (c : Config) (s : Section) : Except Problem Config :=
  Field.setNamed Config.fields c (d.within s).entry

theorem fills_config (h : d.Spares c) (hLimit : ∀ n, c.runtime.memoryLimit = some n → n < 2 ^ 63) :
    Fills d.readSection (· ∈ ({} : Config).sections) {} c.sections c := by
  have hCodec := h.fromEntries_within "codec" (by simp [Config.sections]) (by decide) c.codec.fills
  have hRuntime :=
    h.fromEntries_within "runtime" (by simp [Config.sections]) (by decide)
      (RuntimeConfig.fills hLimit)
  have hLogging :=
    h.fromEntries_within "logging" (by simp [Config.sections]) (by decide) c.logging.fills
  refine .cons { codec := c.codec } ?_ ?_ <|
    .cons { codec := c.codec, runtime := c.runtime } ?_ ?_ <|
    .cons _ ?_ ?_ .nil
  · change (Field.fromEntries CodecConfig.fields _ _).bind _ = _
    rw [hCodec]
    rfl
  · intro hSpare
    have hSame : c.codec.settings = ({} : CodecConfig).settings := by
      simpa [Config.sections] using hSpare
    rw [c.codec.fills.unique (hSame ▸ ({} : CodecConfig).fills)]
  · change (Field.fromEntries RuntimeConfig.fields _ _).bind _ = _
    rw [hRuntime]
    rfl
  · intro hSpare
    have hSame : c.runtime.settings = ({} : RuntimeConfig).settings := by
      simpa [Config.sections] using hSpare
    rw [(RuntimeConfig.fills hLimit).unique (hSame ▸ RuntimeConfig.fills (c := {}) (by simp))]
  · change (Field.fromEntries LoggingConfig.fields _ _).bind _ = _
    rw [hLogging]
    rfl
  · intro hSpare
    have hSame : c.logging.settings = ({} : LoggingConfig).settings := by
      simpa [Config.sections] using hSpare
    have hLoggingDefault := c.logging.fills.unique (hSame ▸ ({} : LoggingConfig).fills)
    obtain ⟨codec, runtime, logging⟩ := c
    exact congrArg _ hLoggingDefault

/-- A document that lacks what it may lack is read as the whole one. -/
theorem ofEntries_leaves (h : d.Spares c)
    (hLimit : ∀ n, c.runtime.memoryLimit = some n → n < 2 ^ 63) :
    Config.ofEntries ((d.leaves c.sections).map Section.entry) = .ok c := by
  rw [Config.ofEntries, Field.fromEntries, leaves, List.map_map, List.foldlM_map]
  refine (fills_config h hLimit).foldlM_filter fun s hs hTaken => h.sections s hs ?_
  simpa using hTaken

end Deletion

end ScriptBridge
