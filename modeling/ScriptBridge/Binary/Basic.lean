/-!
# Binary floating-point numbers

A number is a sign and a magnitude code, the interchange word without its sign bit. Codes count up
through zero, the subnormal and the normal magnitudes, infinity and the NaNs, so the order of codes
is the order of magnitudes. Finite magnitudes are read as whole numbers of the least positive one,
and `Width.codeOf` is the only rounding: every operation forms an exact ratio and rounds it once.
-/
namespace ScriptBridge

inductive Width where
  | single
  | double
  deriving DecidableEq, Repr

namespace Width

/-- Significant bits of a normal number, the implicit one included. -/
def precision : Width → Nat
  | single => 24
  | double => 53

def exponentBits : Width → Nat
  | single => 8
  | double => 11

/-- The least positive magnitude is `2 ^ -unitExponent`; the rest are its multiples. -/
def unitExponent (w : Width) : Nat := Nat.pow 2 (w.exponentBits - 1) + w.precision - 3

def one (w : Width) : Nat := Nat.pow 2 w.unitExponent

/-- Codes per exponent, and the code of the least normal magnitude. -/
def step (w : Width) : Nat := Nat.pow 2 (w.precision - 1)

/-- The code of infinity; the codes above it are NaNs. -/
def infinity (w : Width) : Nat := (Nat.pow 2 w.exponentBits - 1) * w.step

/-- The weight of the sign bit, one more than the last code. -/
def signBit (w : Width) : Nat := Nat.pow 2 (w.exponentBits + w.precision - 1)

theorem infinity_add_lt (w : Width) : w.infinity + w.step / 2 < w.signBit := by
  cases w <;> decide

theorem infinity_lt (w : Width) : w.infinity < w.signBit :=
  Nat.lt_of_le_of_lt (Nat.le_add_right _ _) w.infinity_add_lt

def units (w : Width) (code : Nat) : Nat :=
  if code < w.step then code else (w.step + code % w.step) * Nat.pow 2 (code / w.step - 1)

end Width

/-- The whole number nearest to `num / den`, a half going to the even neighbour. -/
def roundHalfEven (num den : Nat) : Nat :=
  let q := num / den
  let r := num % den
  if 2 * r < den then q
  else if den < 2 * r then q + 1
  else q + q % 2

namespace Width

/-- The code nearest to `num / den` units. The quotient has `shift` bits more than the significand
holds, so that is where it is cut; a carry out of the cut lands on the next exponent by itself. -/
def codeOf (w : Width) (num den : Nat) : Nat :=
  let shift := (num / den).log2 + 1 - w.precision
  min w.infinity (shift * w.step + roundHalfEven num (den * Nat.pow 2 shift))

theorem codeOf_lt (w : Width) (num den : Nat) : w.codeOf num den < w.signBit :=
  Nat.lt_of_le_of_lt (Nat.min_le_left _ _) w.infinity_lt

end Width

structure Binary (w : Width) where
  negative : Bool
  magnitude : Fin w.signBit
  deriving DecidableEq, Repr

abbrev Binary64 := Binary .double

abbrev Binary32 := Binary .single

namespace Binary

variable {w : Width}

/-- Reads an interchange word; bits above the sign are ignored. -/
def ofBits (w : Width) (word : Nat) : Binary w where
  negative := word / w.signBit % 2 == 1
  magnitude := ⟨word % w.signBit, Nat.mod_lt _ (Nat.lt_of_le_of_lt (Nat.zero_le _) w.infinity_lt)⟩

def toBits (x : Binary w) : Nat :=
  (if x.negative then w.signBit else 0) + x.magnitude

def isNaN (x : Binary w) : Bool := w.infinity < x.magnitude

def isInfinite (x : Binary w) : Bool := x.magnitude == w.infinity

def isFinite (x : Binary w) : Bool := x.magnitude < w.infinity

def isZero (x : Binary w) : Bool := x.magnitude.val == 0

def units (x : Binary w) : Int :=
  if x.negative then -(w.units x.magnitude : Int) else (w.units x.magnitude : Int)

def infinity (w : Width) (negative : Bool) : Binary w := ⟨negative, ⟨w.infinity, w.infinity_lt⟩⟩

def zero (w : Width) (negative : Bool) : Binary w :=
  ⟨negative, ⟨0, Nat.lt_of_le_of_lt (Nat.zero_le _) w.infinity_lt⟩⟩

def nan (w : Width) (negative : Bool) : Binary w :=
  ⟨negative, ⟨w.infinity + w.step / 2, w.infinity_add_lt⟩⟩

def round (w : Width) (negative : Bool) (num den : Nat) : Binary w :=
  ⟨negative, ⟨w.codeOf num den, w.codeOf_lt num den⟩⟩

instance : Inhabited (Binary w) := ⟨zero w false⟩

end Binary

end ScriptBridge
