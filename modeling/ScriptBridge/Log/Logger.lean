import ScriptBridge.Log.Filter

/-!
# The logger

The first settings to be installed hold; later ones are refused. Each time settings are put together
their invalid directives are reported to whatever is installed by then.
-/
namespace ScriptBridge

structure Logger where
  installed : Option LogSettings := none
  written : List Event := []
  deriving Repr

namespace Logger

def record (l : Logger) (events : List Event) : Logger :=
  match l.installed with
  | none => l
  | some s => { l with written := l.written ++ events.filter (s.directives .standard).enables }

/-- Installs settings, and says whether they hold. -/
def install (l : Logger) (s : LogSettings) : Bool × Logger :=
  let l := l.record ((s.invalidPieces .standard).map .invalidDirective)
  match l.installed with
  | none => (true, { l with installed := some s })
  | some _ => (false, l)

end Logger

end ScriptBridge
