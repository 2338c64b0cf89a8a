import ScriptBridge.Log.Settings
import ScriptBridge.Text.Alphanumeric

/-!
# Log filters

A filter is a list of directives, at most one for each target, span and field. An event is written
if the most specific of the directives that cover it lets its level through: first the one for the
longest target that its own target begins with, then the one for a field. A directive for all events
is the last resort. The directives of a text come after the level of the settings, and a piece of
the text that is no directive stands for that level again. What is a directive is for a grammar to
say; of a grammar the filters ask only that it reads no directive for the empty target.
-/
namespace ScriptBridge

structure Directive where
  /-- The targets it is for begin with this. -/
  target : Option String := none
  /-- The span it is for, or the value that it asks of a field of spans, as written. The bridge
  opens no span, so such a directive chooses no event. -/
  span : Option String := none
  /-- The events it is for have a field of this name. -/
  field : Option String := none
  /-- The most verbose level let through; none lets nothing through. -/
  level : Option Level
  deriving DecidableEq, Repr

namespace Directive

def isSpace (c : Char) : Bool :=
  let n := c.toNat
  (9 ≤ n && n ≤ 13) || n == 0x20 || n == 0x85 || n == 0xa0 || n == 0x1680 ||
    (0x2000 ≤ n && n ≤ 0x200a) || n == 0x2028 || n == 0x2029 || n == 0x202f || n == 0x205f ||
    n == 0x3000

def isStart (c : Char) : Bool := c == '-' || c == ':' || c == '_' || isAlphanumeric c

/-- A level, or the word that lets nothing through. -/
def level? (s : List Char) : Option (Option Level) :=
  let text := String.ofList s
  if unsigned? s = some 0 ∨ text.toUpper = "OFF" then some none
  else (Level.ofText? text).map some

/-- The level after a sign `=`; without one everything is let through. -/
def levelAfter? (s : List Char) : Option (Option Level) :=
  if s.isEmpty then some (some .trace) else level? s

/-- The directive of the text after an opening bracket, with everything let through, and the text
after the closing one. Between them stand the name of a span, a field in braces or both; without a
name and without a value the field is one of events. -/
def scope? (target : Option String) (s : List Char) : Option (Directive × List Char) :=
  let name := s.takeWhile fun c => c != ']' && c != '\x7b'
  match s.dropWhile fun c => c != ']' && c != '\x7b' with
  | ']' :: r => some ({ target, span := some (String.ofList name), level := some .trace }, r)
  | '\x7b' :: r =>
    let field := r.takeWhile (· != '\x7d')
    match r.dropWhile (· != '\x7d') with
    | '\x7d' :: ']' :: r =>
      if field.isEmpty then none
      else if name.isEmpty && !field.contains '=' then
        some ({ target, field := some (String.ofList field), level := some .trace }, r)
      else
        let span := String.ofList (name ++ '\x7b' :: field ++ ['\x7d'])
        some ({ target, span := some span, level := some .trace }, r)
    | _ => none
  | _ => none

/-- What follows the target: a scope in brackets, a level or both. -/
def after? (target : Option String) : List Char → Option Directive
  | '[' :: r =>
    match scope? target r with
    | none => none
    | some (d, '=' :: r) => (levelAfter? r).map fun level => { d with level }
    | some (d, r) => if r.all isSpace then some d else none
  | '=' :: r => (levelAfter? r).map fun level => { target, level }
  | _ => none

/-- A level alone, or a target with everything let through. Blanks count for targets. -/
def ofWord (s : List Char) : Directive :=
  match level? s with
  | some level => { level }
  | none => { target := some (String.ofList s), level := some .trace }

def ofChars? (s : List Char) : Option Directive :=
  let target := s.takeWhile fun c => c != '=' && c != '['
  match s.dropWhile fun c => c != '=' && c != '[' with
  | [] => if (s.dropWhile isSpace).head?.any isStart then some (ofWord s) else none
  | r =>
    if target.isEmpty then if r.head? == some '[' then after? none r else none
    else if target.head?.any isStart then after? (some (String.ofList target)) r
    else none

def parse? (text : String) : Option Directive := ofChars? text.toList

/-- A directive without target, span and field. -/
def isGeneral (d : Directive) : Bool := d.target.isNone && d.span.isNone && d.field.isNone

def covers (d : Directive) (c : Callsite) : Bool :=
  d.span.isNone && d.target.all (fun t => t.toList.isPrefixOf c.target.toList) &&
    d.field.all c.fields.contains

/-- Whether one takes the place of the other in a filter. -/
def replaces (d e : Directive) : Bool :=
  d.target == e.target && d.span == e.span && d.field == e.field

def weight (d : Directive) : Nat :=
  match d.target with
  | none => 0
  | some t => t.length + 1

/-- Whether another directive is more specific: for a longer target, else for a field, else for a
field whose name comes later. -/
def isBelow (d e : Directive) : Bool :=
  d.weight < e.weight || (d.weight == e.weight && match d.field, e.field with
    | none, some _ => true
    | some f, some g => f < g
    | _, none => false)

/-- The more specific of two directives, if there is another one at all. -/
def orAbove (d : Directive) : Option Directive → Directive
  | none => d
  | some e => if d.isBelow e then e else d

def lets (d : Directive) (level : Level) : Bool :=
  d.level.any fun most => level.verbosity ≤ most.verbosity

variable {target : Option String} {s r : List Char} {d : Directive}

theorem target_of_scope? (h : scope? target s = some (d, r)) : d.target = target := by
  unfold scope? at h
  grind

theorem target_of_after? (h : after? target s = some d) : d.target = target := by
  unfold after? at h
  split at h
  · split at h
    · cases h
    · rename_i scope _ hScope
      obtain ⟨level, -, rfl⟩ := Option.map_eq_some_iff.mp h
      exact target_of_scope? (d := scope) hScope
    · rename_i hScope
      obtain ⟨-, hSame⟩ := Option.ite_none_right_eq_some.mp h
      exact Option.some.inj hSame ▸ target_of_scope? hScope
  · obtain ⟨level, -, rfl⟩ := Option.map_eq_some_iff.mp h
    rfl
  · cases h

theorem target_ofWord (h : s ≠ []) : (ofWord s).target ≠ some "" := by
  unfold ofWord
  split
  · exact nofun
  · exact fun hEmpty => h (String.ofList_eq_empty_iff.mp (Option.some.inj hEmpty))

theorem target_of_parse? {text : String} (h : parse? text = some d) : d.target ≠ some "" := by
  unfold parse? ofChars? at h
  dsimp only at h
  split at h
  · obtain ⟨hStart, hWord⟩ := Option.ite_none_right_eq_some.mp h
    obtain rfl := Option.some.inj hWord
    refine target_ofWord fun hNil => ?_
    rw [hNil] at hStart
    cases hStart
  · split at h
    · obtain ⟨-, hAfter⟩ := Option.ite_none_right_eq_some.mp h
      rw [target_of_after? hAfter]
      exact nofun
    · rename_i hTarget
      obtain ⟨-, hAfter⟩ := Option.ite_none_right_eq_some.mp h
      rw [target_of_after? hAfter]
      intro hEmpty
      rw [String.ofList_eq_empty_iff.mp (Option.some.inj hEmpty)] at hTarget
      exact hTarget rfl

end Directive

/-- How a piece of text is read as a directive. -/
structure Grammar where
  read? : String → Option Directive
  /-- No directive is for the empty target, with which all targets begin. -/
  target_ne (text : String) (d : Directive) : read? text = some d → d.target ≠ some ""

namespace Grammar

def reads (g : Grammar) (text : String) : Bool := (g.read? text).isSome

def standard : Grammar := ⟨Directive.parse?, fun _ _ => Directive.target_of_parse?⟩

end Grammar

abbrev Filter := List Directive

namespace Filter

/-- Adds a directive in place of one for the same target, span and field. -/
def add (f : Filter) (d : Directive) : Filter := f.filter (!d.replaces ·) ++ [d]

/-- Adds directives one after the other. -/
def ofList (ds : List Directive) : Filter := ds.foldl add []

/-- The most specific of the directives that cover an event. -/
def decisive? (c : Callsite) : Filter → Option Directive
  | [] => none
  | d :: rest => if d.covers c then some (d.orAbove (decisive? c rest)) else decisive? c rest

def admits (f : Filter) (c : Callsite) : Bool := (f.decisive? c).any (·.lets c.level)

def enables (f : Filter) (e : Event) : Bool := f.admits e.callsite

end Filter

namespace LogSettings

def pieces (s : LogSettings) : List String :=
  match s.filter with
  | none => []
  | some text => (text.toList.splitOn ',').map String.ofList

/-- The level of the settings, for all events. -/
def base (s : LogSettings) : Directive := { level := some s.level }

/-- What a piece stands for: the directive that it is, or the level of the settings. -/
def directive (g : Grammar) (s : LogSettings) (piece : String) : Directive :=
  (g.read? piece).getD s.base

def directives (g : Grammar) (s : LogSettings) : Filter :=
  .ofList (s.base :: s.pieces.map (s.directive g))

def invalidPieces (g : Grammar) (s : LogSettings) : List String :=
  s.pieces.filter (!g.reads ·)

end LogSettings

end ScriptBridge
