import ScriptBridge.Config.Discovery

/-!
# The nearest usable configuration

Discovery takes the first directory on the way up whose file loads. Nothing below it was usable, and
what was there below it and could not be used is warned of, each file once, the nearest first. Where
no file on the way up is usable, the settings are the default ones.
-/
namespace ScriptBridge
set_option autoImplicit false

namespace Path

variable {p d : Path}

/-- The places from `p` upwards, as its path spells them: `p` itself first, the nearest above it
next. -/
structure Upwards (p : Path) (places : List Path) : Prop where
  mem_iff : ∀ d, d ∈ places ↔ d <+: p
  nearestFirst : places.Pairwise fun lower higher => higher.length < lower.length

theorem mem_withAncestors : d ∈ p.withAncestors ↔ d <+: p := by
  rw [withAncestors, List.mem_map]
  constructor
  · rintro ⟨n, -, rfl⟩
    exact List.take_prefix n p
  · intro h
    refine ⟨d.length, ?_, (List.prefix_iff_eq_take.mp h).symm⟩
    rw [List.mem_reverse, List.mem_range]
    exact Nat.lt_succ_of_le h.length_le

theorem upwards_withAncestors : Upwards p p.withAncestors where
  mem_iff _ := mem_withAncestors
  nearestFirst := by
    rw [withAncestors, List.pairwise_map, List.pairwise_reverse]
    refine (List.pairwise_lt_range).imp_of_mem fun {m n} _ hn h => ?_
    have hn : n < p.length + 1 := List.mem_range.mp hn
    rw [List.length_take, List.length_take]
    omega

end Path

namespace Tree

variable {root : Tree} {p : Path} {text : String}

theorem read_eq_ok_iff : root.read p = .ok text ↔
    ∃ place content, root.resolve p = .ok place ∧ root.at? place = some (.file content) ∧
      String.fromUTF8? content = some text := by
  rw [read]
  cases root.resolve p with
  | error e => simp [Bind.bind, Except.bind]
  | ok place =>
    simp only [Bind.bind, Except.bind, Except.ok.injEq, exists_and_left, exists_eq_left']
    split
    · rename_i content hFile
      cases hText : String.fromUTF8? content <;> simp [hFile, hText]
    · rename_i hFile
      simp [hFile]
    · rename_i hFile
      simp [hFile]
    · rename_i hFile
      simp [hFile]

end Tree

namespace Config

variable {root : Tree} {origin : Origin} {p d : Path} {places : List Path} {c : Config}

/-- The path leads to a file that can be read, is text and is this configuration. -/
def Holds (root : Tree) (p : Path) (c : Config) : Prop :=
  ∃ place content text, root.resolve p = .ok place ∧ root.at? place = some (.file content) ∧
    String.fromUTF8? content = some text ∧ parse text = .ok c

theorem mapError_eq_ok_iff {ε ε' α : Type} {f : ε → ε'} {x : Except ε α} {a : α} :
    x.mapError f = .ok a ↔ x = .ok a := by
  cases x with
  | error e => constructor <;> intro h <;> cases h
  | ok b =>
    constructor <;> intro h <;> cases h <;> rfl

theorem load_eq_ok_iff : load root p = .ok c ↔ Holds root p c := by
  have hRead : load root p = .ok c ↔ ∃ text, root.read p = .ok text ∧ parse text = .ok c := by
    rw [load]
    cases root.read p with
    | error e => simp
    | ok text => simp [mapError_eq_ok_iff]
  rw [hRead, Holds]
  constructor
  · rintro ⟨text, hText, hParse⟩
    obtain ⟨place, content, hResolve, hFile, hContent⟩ := Tree.read_eq_ok_iff.mp hText
    exact ⟨place, content, text, hResolve, hFile, hContent, hParse⟩
  · rintro ⟨place, content, text, hResolve, hFile, hContent, hParse⟩
    exact ⟨text, Tree.read_eq_ok_iff.mpr ⟨place, content, hResolve, hFile, hContent⟩, hParse⟩

def Usable (root : Tree) (origin : Origin) (d : Path) : Prop :=
  ∃ c, Holds root (origin.fromRoot (d ++ [fileName])) c

/-- What is wrong with the file of a directory that has one. -/
def fault? (root : Tree) (origin : Origin) (d : Path) : Option LoadError :=
  match load root (origin.fromRoot (d ++ [fileName])) with
  | .ok _ => none
  | .error e => if root.contains (origin.fromRoot (d ++ [fileName])) then some e else none

/-- The warning of that file: it names the file and what is wrong with it. -/
def warning? (root : Tree) (origin : Origin) (d : Path) : Option Event :=
  (fault? root origin d).map fun e => .configRejected (origin.text (d ++ [fileName])) e.text

theorem contains_of_holds (h : Holds root p c) : root.contains p = true := by
  obtain ⟨place, -, -, hResolve, -⟩ := h
  rw [Tree.contains, hResolve]
  rfl

theorem discoverIn_usable (h : Holds root (origin.fromRoot (d ++ [fileName])) c) :
    discoverIn root origin (d :: places) = ⟨c, []⟩ := by
  simp only [discoverIn, contains_of_holds h, load_eq_ok_iff.mpr h, if_true]

theorem discoverIn_unusable (h : ¬ Usable root origin d) :
    discoverIn root origin (d :: places) =
      ⟨(discoverIn root origin places).config,
        (warning? root origin d).toList ++ (discoverIn root origin places).warnings⟩ := by
  cases hLoad : load root (origin.fromRoot (d ++ [fileName])) with
  | ok c => exact absurd ⟨c, load_eq_ok_iff.mp hLoad⟩ h
  | error e =>
    simp only [discoverIn, warning?, fault?, hLoad]
    split <;> rfl

/-- How a walk along `places` ends: it has passed `below` and takes the first of the rest. -/
structure Ends (root : Tree) (origin : Origin) (places : List Path) (found : Discovery)
    (below rest : List Path) : Prop where
  split : places = below ++ rest
  unusable : ∀ d ∈ below, ¬ Usable root origin d
  warnings : found.warnings = below.filterMap (warning? root origin)
  taken : (rest = [] ∧ found.config = {}) ∨
    ∃ d above, rest = d :: above ∧ Holds root (origin.fromRoot (d ++ [fileName])) found.config

theorem ends_discoverIn (root : Tree) (origin : Origin) (places : List Path) :
    ∃ below rest, Ends root origin places (discoverIn root origin places) below rest := by
  induction places with
  | nil => exact ⟨[], [], rfl, nofun, rfl, .inl ⟨rfl, rfl⟩⟩
  | cons d places ih =>
    by_cases hUsable : Usable root origin d
    · obtain ⟨c, hHolds⟩ := hUsable
      rw [discoverIn_usable hHolds]
      exact ⟨[], d :: places, rfl, nofun, rfl, .inr ⟨d, places, rfl, hHolds⟩⟩
    · obtain ⟨below, rest, hEnds⟩ := ih
      rw [discoverIn_unusable hUsable]
      refine ⟨d :: below, rest, ?_, ?_, ?_, hEnds.taken⟩
      · rw [List.cons_append, ← hEnds.split]
      · exact List.forall_mem_cons.mpr ⟨hUsable, hEnds.unusable⟩
      · change (warning? root origin d).toList ++ _ = _
        rw [hEnds.warnings, List.filterMap_cons]
        cases warning? root origin d <;> rfl

end Config

/-- Discovery ends, whatever the tree and wherever it begins, at a path from the root or from the
working directory. Of the directories from there upwards it takes the nearest one whose file loads,
or the default settings if there is none. It gives a warning for each file below that one that is
there and does not load, with the path of the file and what is wrong with it, in the order of the
walk, and for nothing else. -/
theorem nearest_usable_found (root : Tree) (start : Path) (origin : Origin) :
    let found := Config.discoverFrom root start origin
    ∃ below rest, (origin.lexical start).Upwards (below ++ rest) ∧
      (∀ d ∈ below, ¬ Config.Usable root origin d) ∧
      ((rest = [] ∧ found.config = {}) ∨
        ∃ d above, rest = d :: above ∧
          Config.Holds root (origin.fromRoot (d ++ [Config.fileName])) found.config) ∧
      found.warnings = below.filterMap (Config.warning? root origin) ∧
      ∀ e ∈ found.warnings, e.level = .warn := by
  intro found
  obtain ⟨below, rest, hEnds⟩ :=
    Config.ends_discoverIn root origin (origin.lexical start).withAncestors
  refine ⟨below, rest, hEnds.split ▸ Path.upwards_withAncestors, hEnds.unusable, hEnds.taken,
    hEnds.warnings, fun e he => ?_⟩
  obtain ⟨d, -, hd⟩ := List.mem_filterMap.mp (hEnds.warnings ▸ he)
  obtain ⟨fault, -, rfl⟩ := Option.map_eq_some_iff.mp hd
  rfl

/-- A file that may not be read is passed over for the one above it. -/
example :
    let above := Tree.file "codec.integer_coercion = \"truncate\"".toUTF8
    let root := Tree.directory
      [(Config.fileName, above), ("scripts", .directory [(Config.fileName, .locked)])]
    let denied := Config.LoadError.unreadable .denied
    Config.discoverFrom root ["scripts"] =
      ⟨{ codec := { integerCoercion := .truncate } },
        [.configRejected "/scripts/laf.toml" denied.text]⟩ := by
  decide +kernel

/-- From `.` in a working directory the way up comes by the directory twice, and there is a warning
for each time. -/
example :
    let root := Tree.directory [("scripts", .directory [(Config.fileName, .locked)])]
    let denied := Config.LoadError.unreadable .denied
    (Config.discoverFrom root ["."] (.workingDirectory ["scripts"])).warnings =
      [.configRejected "./laf.toml" denied.text, .configRejected "laf.toml" denied.text] := by
  decide +kernel

end ScriptBridge
