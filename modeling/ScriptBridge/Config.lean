/-!
# Configuration

The settings of a host: how values are decoded, what the script runtime offers and what is logged.
Field defaults are the settings of a host that is given none.
-/
namespace ScriptBridge

/-- What becomes of a fractional part where a whole number is wanted. -/
inductive IntegerCoercion where
  | exact
  | truncate
  deriving DecidableEq, Repr, Inhabited

structure CodecConfig where
  integerCoercion : IntegerCoercion := .exact
  numberToString : Bool := true
  stringToNumber : Bool := false
  deriving DecidableEq, Repr, Inhabited

structure RuntimeConfig where
  /-- The standard libraries to open; none named opens every safe one. -/
  libraries : List String := []
  /-- The most bytes the script heap may take. -/
  memoryLimit : Option Nat := none
  deriving DecidableEq, Repr, Inhabited

inductive LogFormat where
  | pretty
  | compact
  | json
  deriving DecidableEq, Repr, Inhabited

structure LoggingConfig where
  level : String := "info"
  format : LogFormat := .pretty
  filter : Option String := none
  deriving DecidableEq, Repr, Inhabited

structure Config where
  codec : CodecConfig := {}
  runtime : RuntimeConfig := {}
  logging : LoggingConfig := {}
  deriving DecidableEq, Repr, Inhabited

end ScriptBridge
