import ScriptBridge.Error

/-!
# Type identities

Which object types are known to scripts, and by which identifier. Identities are kept by type and by
identifier, and neither a type nor an identifier is ever used twice.
-/
namespace ScriptBridge

structure Identity (τ : Type) where
  type : τ
  identifier : String
  deriving DecidableEq, Repr

structure Registry (τ : Type) where
  byType : List (Identity τ) := []
  byIdentifier : List (Identity τ) := []
  deriving Repr

namespace Registry

variable {τ : Type} [DecidableEq τ]

def identityOf? (r : Registry τ) (t : τ) : Option (Identity τ) :=
  r.byType.find? fun i => i.type = t

def ownerOf? (r : Registry τ) (identifier : String) : Option (Identity τ) :=
  r.byIdentifier.find? fun i => i.identifier = identifier

def identifier? (r : Registry τ) (t : τ) : Option String :=
  (r.identityOf? t).map Identity.identifier

def insert (r : Registry τ) (i : Identity τ) : Registry τ where
  byType := i :: r.byType
  byIdentifier := i :: r.byIdentifier

/-- Registers a type. Doing so again under the same identifier changes nothing; a type with another
identifier is refused before the identifier is looked at. -/
def register (r : Registry τ) (typeName : τ → String) (t : τ) (identifier : String) :
    Except Cause (Identity τ × Registry τ) :=
  match r.identityOf? t with
  | some known =>
    if known.identifier = identifier then .ok (known, r)
    else .error (.duplicateType (typeName t) known.identifier identifier)
  | none =>
    match r.ownerOf? identifier with
    | some owner => .error (.identifierTaken identifier (typeName owner.type))
    | none => .ok (⟨t, identifier⟩, r.insert ⟨t, identifier⟩)

end Registry

end ScriptBridge
