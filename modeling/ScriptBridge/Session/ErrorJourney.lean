import ScriptBridge.Script.Value

/-!
# Errors on their way

A bridge error that is named, hinted at and wrapped on its way through the runtime, and what is
recovered of it.
-/
namespace ScriptBridge

namespace ErrorJourney

inductive Leg where
  | inFunction (name : String)
  | suggest (hint : String)
  | wrap
  | callback
  | context (text : String)
  | badArgument (function : String)
  | recover

inductive Traveller where
  | bridge (e : BridgeError)
  | runtime (e : RuntimeError)

namespace Traveller

def toRuntime : Traveller → RuntimeError
  | bridge e => .bridge e
  | runtime e => e

def toBridge : Traveller → BridgeError
  | bridge e => e
  | runtime e => .ofRuntime e

def go (t : Traveller) : Leg → Traveller
  | .inFunction name => bridge (t.toBridge.inFunction name)
  | .suggest hint => bridge (t.toBridge.suggest hint)
  | .wrap => runtime t.toRuntime
  | .callback => runtime (.callback "" t.toRuntime)
  | .context text => runtime (.context text t.toRuntime)
  | .badArgument function => runtime (.badArgument "#1" function t.toRuntime)
  | .recover => bridge t.toBridge

end Traveller

/-- The bridge errors seen outside the runtime, leg by leg. -/
def sightings (t : Traveller) : List Leg → List BridgeError
  | [] => []
  | leg :: legs =>
    match t.go leg with
    | .bridge e => e :: sightings (.bridge e) legs
    | .runtime e => sightings (.runtime e) legs

end ErrorJourney

end ScriptBridge
