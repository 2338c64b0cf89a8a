import ScriptBridge.Binary.Basic

/-!
# Arithmetic and conversions of binary numbers

Sums, products and conversions are formed exactly and rounded once. An operation that has no value
gives the negative quiet NaN, and a NaN operand is handed on, the first one first.
-/
namespace ScriptBridge

namespace Binary

variable {w : Width}

def ofInt (w : Width) (i : Int) : Binary w :=
  round w (decide (i < 0)) (i.natAbs * w.one) 1

def convert (v : Width) (x : Binary w) : Binary v :=
  if x.isNaN then nan v x.negative
  else if x.isInfinite then infinity v x.negative
  else round v x.negative (w.units x.magnitude * v.one) w.one

def ofBinary64 (w : Width) (x : Binary64) : Binary w :=
  match w with
  | .double => x
  | .single => x.convert .single

def toBinary64 (x : Binary w) : Binary64 :=
  match w, x with
  | .double, x => x
  | .single, x => x.convert .double

/-- A sum that cancels is positive zero; only two negative zeros add up to a negative one. -/
def add (x y : Binary w) : Binary w :=
  if x.isNaN then x
  else if y.isNaN then y
  else if x.isInfinite then
    if y.isInfinite && x.negative != y.negative then nan w true else x
  else if y.isInfinite then y
  else
    let s := x.units + y.units
    if s = 0 then zero w (x.negative && y.negative)
    else round w (decide (s < 0)) s.natAbs 1

def mul (x y : Binary w) : Binary w :=
  if x.isNaN then x
  else if y.isNaN then y
  else
    let negative := x.negative != y.negative
    if x.isInfinite then
      if y.isZero then nan w true else infinity w negative
    else if y.isInfinite then
      if x.isZero then nan w true else infinity w negative
    else round w negative (w.units x.magnitude * w.units y.magnitude) w.one

instance : Add (Binary w) := ⟨add⟩

instance : Mul (Binary w) := ⟨mul⟩

/-- The whole part, rounded toward zero; NaN and the infinities have none. -/
def truncate? (x : Binary w) : Option Int :=
  if x.isFinite then some (x.units.tdiv w.one) else none

def toInt? (x : Binary w) : Option Int :=
  if x.isFinite && x.units % w.one == 0 then
    some (x.units / w.one)
  else none

end Binary

end ScriptBridge
