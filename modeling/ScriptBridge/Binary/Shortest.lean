import ScriptBridge.Binary.Text

/-!
# Shortest decimal text

The fewest significant digits that read back as the same number, written positionally. On the
decimal grid of each length only the two neighbours of the number can be nearest to it, so the first
grid on which one of them reads back has the shortest text.
-/
namespace ScriptBridge

namespace Scientific

def codeAt (w : Width) (coefficient : Nat) (place : Int) : Nat :=
  if 0 ≤ place then w.codeOf (coefficient * Nat.pow 10 place.toNat * w.one) 1
  else w.codeOf (coefficient * w.one) (Nat.pow 10 (-place).toNat)

/-- The neighbours of a magnitude on the grid of multiples of `10 ^ place`, the nearer one first,
the upper one if they are equally near. -/
def neighbours (w : Width) (units : Nat) (place : Int) : List Nat :=
  let (num, den) :=
    if 0 ≤ place then (units, w.one * Nat.pow 10 place.toNat)
    else (units * Nat.pow 10 (-place).toNat, w.one)
  let below := num / den
  if num % den = 0 then [below]
  else if 2 * (num % den) < den then [below, below + 1]
  else [below + 1, below]

/-- The first grid from `digits` digits on, of `tries` grids, with a neighbour that reads back. -/
def shortestFrom (w : Width) (code : Nat) : (tries digits : Nat) → Option (Nat × Int)
  | 0, _ => none
  | tries + 1, digits =>
    let units := w.units code
    let place := leading w units - digits + 1
    match (neighbours w units place).find? fun n => codeAt w n place == code with
    | some n => some (n, place)
    | none => shortestFrom w code tries (digits + 1)

def positionalText (n : Nat) (place : Int) : String :=
  let digits := n.repr.toList
  if 0 ≤ place then String.ofList (digits ++ List.replicate place.toNat '0')
  else
    let places := (-place).toNat
    let padded := List.replicate (places + 1 - digits.length) '0' ++ digits
    let whole := padded.take (padded.length - places)
    withPoint whole (dropTrailingZeros (padded.drop (padded.length - places)))

end Scientific

namespace Binary

variable {w : Width}

def shortestMagnitude (x : Binary w) : String :=
  if x.isNaN then "NaN"
  else if x.isInfinite then "inf"
  else if x.isZero then "0"
  else
    match Scientific.shortestFrom w x.magnitude 20 1 with
    | some (n, place) => Scientific.positionalText n place
    | none => ""

/-- The shortest text that reads back; a NaN shows no sign. -/
def shortest (x : Binary w) : String :=
  (if x.negative && !x.isNaN then "-" else "") ++ x.shortestMagnitude

end Binary

end ScriptBridge
