import ScriptBridge.Config
import ScriptBridge.Log.Event
import ScriptBridge.Text.Digits

/-!
# Log settings

What is logged, in which format and where to. The log section of a configuration says the level as a
name or a number; one that says neither is taken for `info`.
-/
namespace ScriptBridge

/-- The number an unsigned numeral stands for; it may have a plus sign and leading zeros, and must
fit in 64 bits. -/
def unsigned? (s : List Char) : Option Nat :=
  let digits := match s with
    | '+' :: r => r
    | _ => s
  let n := positional 10 digits
  if digits ≠ [] ∧ digits.all isDecimal ∧ n < Nat.pow 2 64 then some n else none

namespace Level

def all : List Level := [error, warn, info, debug, trace]

def ofVerbosity? (n : Nat) : Option Level := all.find? (·.verbosity == n)

def ofName? (s : String) : Option Level := all.find? (·.name == s.toUpper)

def ofText? (s : String) : Option Level :=
  ((unsigned? s.toList).bind ofVerbosity?).or (ofName? s)

end Level

inductive LogOutput where
  | standardOutput
  | standardError
  /-- A file a day, whose names begin with the stem. -/
  | files (directory stem : String)
  deriving DecidableEq, Repr

structure LogSettings where
  level : Level := .info
  format : LogFormat := .pretty
  output : LogOutput := .standardError
  spanEvents : Bool := false
  /-- Directives that choose events by where they come from, separated by commas. -/
  filter : Option String := none
  deriving DecidableEq, Repr

namespace LogSettings

def ofSection (s : LoggingConfig) : LogSettings :=
  { level := (Level.ofText? s.level).getD .info, format := s.format, filter := s.filter }

def development : LogSettings :=
  { level := .debug, spanEvents := true, filter := some "laf=trace" }

def toFiles (directory : String) : LogSettings :=
  { format := .json, output := .files directory "laf", filter := some "laf=info" }

end LogSettings

end ScriptBridge
