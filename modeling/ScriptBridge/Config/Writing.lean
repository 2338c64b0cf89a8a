import ScriptBridge.Config.Reading
import ScriptBridge.Toml.Printer

/-!
# Writing configurations

All settings are written, defaults too, except options that are not set. The numbers of TOML have 64
bits with a sign, so a greater memory limit cannot be written.
-/
namespace ScriptBridge

def IntegerCoercion.name : IntegerCoercion → String
  | .exact => "exact"
  | .truncate => "truncate"

def LogFormat.name : LogFormat → String
  | .pretty => "pretty"
  | .compact => "compact"
  | .json => "json"

def CodecConfig.settings (c : CodecConfig) : List (String × Toml.Setting) :=
  [("integer_coercion", .text c.integerCoercion.name),
    ("number_to_string", .flag c.numberToString),
    ("string_to_number", .flag c.stringToNumber)]

def RuntimeConfig.settings (c : RuntimeConfig) : List (String × Toml.Setting) :=
  ("libraries", .texts c.libraries) ::
    (c.memoryLimit.map fun n => ("memory_limit", Toml.Setting.count n)).toList

def LoggingConfig.settings (c : LoggingConfig) : List (String × Toml.Setting) :=
  [("level", .text c.level), ("format", .text c.format.name)] ++
    (c.filter.map fun s => ("filter", Toml.Setting.text s)).toList

namespace Config

def greatestCount : Nat := Nat.pow 2 63 - 1

def isWritable (c : Config) : Bool := c.runtime.memoryLimit.all (· ≤ greatestCount)

def sections (c : Config) : List Toml.Section :=
  [⟨"codec", c.codec.settings⟩, ⟨"runtime", c.runtime.settings⟩, ⟨"logging", c.logging.settings⟩]

def print? (c : Config) : Option String :=
  if c.isWritable then some (Toml.print c.sections) else none

end Config

end ScriptBridge
