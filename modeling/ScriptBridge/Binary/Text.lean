import ScriptBridge.Binary.Basic

/-!
# Decimal text of binary numbers

`Binary.general` writes a number with a fixed count of significant digits, rounded from its exact
value with halves going to even, without trailing zeros. Exponents from `-4` up to the count of
digits are written positionally.
-/
namespace ScriptBridge

/-- `coefficient * 10 ^ (exponent - digits + 1)`, where the coefficient has `digits` digits. -/
structure Scientific where
  coefficient : Nat
  exponent : Int
  deriving DecidableEq, Repr

namespace Scientific

/-- Enough decimal places to tell the least positive magnitude from zero. -/
def guardPlaces (w : Width) : Nat := w.unitExponent

/-- The exponent of the leading decimal digit of a positive magnitude. -/
def leading (w : Width) (units : Nat) : Int :=
  let scaled := units * Nat.pow 10 (guardPlaces w) / w.one
  (scaled.repr.length : Int) - 1 - guardPlaces w

def ofUnits (w : Width) (digits units : Nat) : Scientific :=
  let exponent := leading w units
  let places := (digits : Int) - 1 - exponent
  let rounded :=
    if 0 ≤ places then roundHalfEven (units * Nat.pow 10 places.toNat) w.one
    else roundHalfEven units (w.one * Nat.pow 10 (-places).toNat)
  if rounded = Nat.pow 10 digits then ⟨Nat.pow 10 (digits - 1), exponent + 1⟩ else ⟨rounded, exponent⟩

def exponentText (e : Int) : String :=
  let digits := e.natAbs.repr
  (if e < 0 then "e-" else "e+") ++ (if digits.length < 2 then "0" ++ digits else digits)

def dropTrailingZeros (digits : List Char) : List Char :=
  (digits.reverse.dropWhile (· == '0')).reverse

def withPoint (whole fraction : List Char) : String :=
  String.ofList (if fraction.isEmpty then whole else whole ++ '.' :: fraction)

def text (digits : Nat) (s : Scientific) : String :=
  let kept := dropTrailingZeros s.coefficient.repr.toList
  if s.exponent < -4 ∨ (digits : Int) ≤ s.exponent then
    withPoint (kept.take 1) (kept.drop 1) ++ exponentText s.exponent
  else if s.exponent < 0 then
    withPoint ['0'] (List.replicate (-s.exponent - 1).toNat '0' ++ kept)
  else
    let whole := s.exponent.toNat + 1
    withPoint (kept.take whole ++ List.replicate (whole - kept.length) '0') (kept.drop whole)

end Scientific

namespace Binary

variable {w : Width}

def magnitudeText (digits : Nat) (x : Binary w) : String :=
  if x.isNaN then "nan"
  else if x.isInfinite then "inf"
  else if x.isZero then "0"
  else (Scientific.ofUnits w digits (w.units x.magnitude)).text digits

def general (digits : Nat) (x : Binary w) : String :=
  (if x.negative then "-" else "") ++ x.magnitudeText digits

end Binary

end ScriptBridge
