import ScriptBridge.Config.Writing
import ScriptBridge.Files.Tree
import ScriptBridge.Log.Event

/-!
# Configuration files

Loading and saving configurations, and finding the one that holds for a place: the nearest usable
file in its directory or one above. A file that is there but cannot be used is passed over and
noted, by its path and what is wrong with it.
-/
namespace ScriptBridge.Config

def fileName : String := "laf.toml"

inductive LoadError where
  | unreadable (e : FileError)
  | unparsable (e : ParseError)
  deriving DecidableEq, Repr

def LoadError.text : LoadError → String
  | unreadable e => "Failed to read config: " ++ e.text
  | unparsable e => e.text

def load (root : Tree) (p : Path) : Except LoadError Config :=
  match root.read p with
  | .error e => .error (.unreadable e)
  | .ok text => (parse text).mapError .unparsable

inductive SaveError where
  | unwritable
  | refused (e : FileError)
  deriving DecidableEq, Repr

def SaveError.text : SaveError → String
  | unwritable => "Failed to serialize config: out-of-range value for u64 type"
  | refused e => "Failed to write config: " ++ e.text

def save (c : Config) (root : Tree) (p : Path) : Except SaveError Tree :=
  match c.print? with
  | none => .error .unwritable
  | some text => (root.write p text).mapError .refused

/-- The configuration that was found, and the warnings of files passed over on the way up. -/
structure Discovery where
  config : Config := {}
  warnings : List Event := []
  deriving DecidableEq, Repr

/-- Looks in directories, one after the other; their paths begin at `origin`. -/
def discoverIn (root : Tree) (origin : Origin) : List Path → Discovery
  | [] => {}
  | directory :: rest =>
    let p := directory ++ [fileName]
    if root.contains (origin.fromRoot p) then
      match load root (origin.fromRoot p) with
      | .ok c => ⟨c, []⟩
      | .error e =>
        let found := discoverIn root origin rest
        ⟨found.config, .configRejected (origin.text p) e.text :: found.warnings⟩
    else discoverIn root origin rest

/-- Looks in a directory and the ones above it, as its path spells them. -/
def discoverFrom (root : Tree) (start : Path) (origin : Origin := .root) : Discovery :=
  discoverIn root origin (origin.lexical start).withAncestors

def discover (root : Tree) (workingDirectory : Path) : Discovery :=
  match root.resolve workingDirectory with
  | .ok place => discoverFrom root place
  | .error _ => {}

end ScriptBridge.Config
