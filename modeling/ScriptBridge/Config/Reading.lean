import ScriptBridge.Config
import ScriptBridge.Config.Problem
import ScriptBridge.Toml.Reader

/-!
# Reading configurations

A configuration is read from the table of a TOML document. Each section is a list of fields. What a
missing field of a section is stands beside its fields, what a missing section is with the section
itself; unknown names are ignored. A section may also be an array, which fills the fields in their
order. The first problem in the order of the document is reported.
-/
namespace ScriptBridge

/-- A field of a section: its name, and how its value is read and set. -/
structure Field (σ : Type) where
  name : String
  read : Toml.Value → σ → Except Problem σ

namespace Field

variable {σ : Type}

/-- Sets the field of this name, if there is one. -/
def setNamed (fields : List (Field σ)) (s : σ) (entry : String × Toml.Value) : Except Problem σ :=
  match fields.find? (·.name == entry.1) with
  | some f => f.read entry.2 s
  | none => .ok s

/-- Sets the fields that are given; the others stay as they are in `unset`. -/
def fromEntries (fields : List (Field σ)) (unset : σ) (entries : Toml.Entries) :
    Except Problem σ :=
  entries.foldlM (setNamed fields) unset

/-- Items beyond the last field are ignored. -/
def fromItems (fields : List (Field σ)) (unset : σ) (items : List Toml.Value) :
    Except Problem σ :=
  (fields.zip items).foldlM (fun s (f, v) => f.read v s) unset

/-- Reads a section; a date or time is a table without known fields. -/
def fromValue (fields : List (Field σ)) (unset : σ) (name : String) :
    Toml.Value → Except Problem σ
  | .table _ entries => fromEntries fields unset entries
  | .array items => fromItems fields unset items
  | .tables items => fromItems fields unset (items.map (.table .headed))
  | .dateTime => .ok unset
  | v => .error (.invalidType v.described s!"struct {name}")

end Field

namespace Toml.Value

def boolean? : Toml.Value → Except Problem Bool
  | .boolean b => .ok b
  | v => .error (.invalidType v.described "a boolean")

def text? : Toml.Value → Except Problem String
  | .text s => .ok s
  | v => .error (.invalidType v.described "a string")

def texts? : Toml.Value → Except Problem (List String)
  | .array items => items.mapM text?
  | .tables items => (items.map (Toml.Value.table .headed)).mapM text?
  | v => .error (.invalidType v.described "a sequence")

def count? : Toml.Value → Except Problem Nat
  | .integer i =>
    if 0 ≤ i.toInt then .ok i.toInt.toNat
    else .error (.invalidValue (Toml.Value.integer i).described "usize")
  | v => .error (.invalidType v.described "usize")

def nothing? : Toml.Value → Except Problem Unit
  | .table _ [] | .array [] | .tables [] => .ok ()
  | .table .. | .array _ => .error .chosenWithEntries
  | .tables _ => .error .chosenWithItems
  | v => .error (.chosenWith v.kindName)

variable {α : Type}

def named? (choices : List (String × α)) (name : String) : Except Problem α :=
  match Names.get? choices name with
  | some a => .ok a
  | none => .error (.unknownVariant name (choices.map (·.1)))

/-- One of the named choices: its name, or a table with its name and nothing to it. -/
def choice? (choices : List (String × α)) : Toml.Value → Except Problem α
  | .text s => named? choices s
  | .table _ [] => .error .emptyChoice
  | .table _ [(name, v)] => do
    let a ← named? choices name
    nothing? v
    return a
  | .table _ (_ :: _ :: _) => .error .manyChoices
  | _ => .error .noChoice

end Toml.Value

namespace IntegerCoercion

def names : List (String × IntegerCoercion) := [("exact", .exact), ("truncate", .truncate)]

end IntegerCoercion

namespace LogFormat

def names : List (String × LogFormat) :=
  [("pretty", .pretty), ("compact", .compact), ("json", .json)]

end LogFormat

namespace CodecConfig

/-- What the fields are that a section does not give. -/
def unset : CodecConfig where
  integerCoercion := .exact
  numberToString := true
  stringToNumber := false

def fields : List (Field CodecConfig) := [
  ⟨"integer_coercion", fun v c => do
    return { c with integerCoercion := ← v.choice? IntegerCoercion.names }⟩,
  ⟨"number_to_string", fun v c => do return { c with numberToString := ← v.boolean? }⟩,
  ⟨"string_to_number", fun v c => do return { c with stringToNumber := ← v.boolean? }⟩]

end CodecConfig

namespace RuntimeConfig

def unset : RuntimeConfig where
  libraries := []
  memoryLimit := none

def fields : List (Field RuntimeConfig) := [
  ⟨"libraries", fun v c => do return { c with libraries := ← v.texts? }⟩,
  ⟨"memory_limit", fun v c => do return { c with memoryLimit := some (← v.count?) }⟩]

end RuntimeConfig

namespace LoggingConfig

def unset : LoggingConfig where
  level := "info"
  format := .pretty
  filter := none

def fields : List (Field LoggingConfig) := [
  ⟨"level", fun v c => do return { c with level := ← v.text? }⟩,
  ⟨"format", fun v c => do return { c with format := ← v.choice? LogFormat.names }⟩,
  ⟨"filter", fun v c => do return { c with filter := some (← v.text?) }⟩]

end LoggingConfig

namespace Config

def fields : List (Field Config) := [
  ⟨"codec", fun v c => do
    return { c with codec := ← Field.fromValue CodecConfig.fields .unset "CodecConfig" v }⟩,
  ⟨"runtime", fun v c => do
    return { c with runtime := ← Field.fromValue RuntimeConfig.fields .unset "RuntimeConfig" v }⟩,
  ⟨"logging", fun v c => do
    return { c with logging := ← Field.fromValue LoggingConfig.fields .unset "LoggingConfig" v }⟩]

def ofEntries (entries : Toml.Entries) : Except Problem Config :=
  Field.fromEntries fields {} entries

inductive ParseError where
  | malformed
  | problem (p : Problem)
  deriving DecidableEq, Repr

def ParseError.text : ParseError → String
  | malformed => "Failed to parse config"
  | problem p => "Failed to parse config: " ++ p.text

def parse (text : String) : Except ParseError Config :=
  match Toml.read? text with
  | none => .error .malformed
  | some entries => (ofEntries entries).mapError .problem

end Config

end ScriptBridge
