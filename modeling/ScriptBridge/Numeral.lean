import ScriptBridge.Binary.Text
import ScriptBridge.Binary.Arithmetic
import ScriptBridge.Text.Digits

/-!
# Numerals

The numbers a script string can stand for, and the text of numbers. A numeral is a whole number or a
float, in decimal or hexadecimal digits, with blanks around it and a sign before it. Whole decimal
numbers beyond 64 bits become floats, whole hexadecimal ones wrap. Floats are rounded once, from the
exact value that is written.
-/
namespace ScriptBridge

/-- The whole number of 64 bits with this value, if there is one. -/
def int64? (i : Int) : Option Int64 :=
  if Int64.minValue.toInt ≤ i ∧ i ≤ Int64.maxValue.toInt then some (Int64.ofInt i) else none

inductive Numeral where
  | integer (i : Int64)
  | float (x : Binary64)
  deriving DecidableEq, Repr

/-- The value of a numeral, rounded if it is too long a whole number. -/
def Numeral.toBinary64 : Numeral → Binary64
  | .integer i => .ofInt .double i.toInt
  | .float x => x

/-- The text of a float; one that would read as a whole number gets a decimal place. -/
def Binary64.text (x : Binary64) : String :=
  let t := x.general 14
  if t.toList.all (fun c => isDecimal c || c == '-') then t ++ ".0" else t

namespace Numeral

def isBlank (c : Char) : Bool :=
  c == ' ' || ('\t' ≤ c && c ≤ '\r')

def trim (s : List Char) : List Char :=
  ((s.dropWhile isBlank).reverse.dropWhile isBlank).reverse

/-- Splits a sign off; the first component says whether it is a minus. -/
def splitSign : List Char → Bool × List Char
  | '-' :: r => (true, r)
  | '+' :: r => (false, r)
  | r => (false, r)

/-- The digits after a point, if there is one, and the rest. -/
def splitFraction (isDigit : Char → Bool) : List Char → List Char × List Char
  | '.' :: r => (r.takeWhile isDigit, r.dropWhile isDigit)
  | r => ([], r)

def exponent? (r : List Char) : Option Int :=
  let (minus, digits) := splitSign r
  if digits ≠ [] ∧ digits.all isDecimal then
    let n : Int := positional 10 digits
    some (if minus then -n else n)
  else none

/-- `significand * base ^ exponent` in either base, with a marked exponent that may be missing. -/
def scaled? (isDigit isMark : Char → Bool) (digitBase : Nat) (placeWeight : Nat) (s : List Char) :
    Option (Nat × Int) :=
  let whole := s.takeWhile isDigit
  let (places, rest) := splitFraction isDigit (s.dropWhile isDigit)
  if whole = [] ∧ places = [] then none
  else
    let significand := positional digitBase (whole ++ places)
    let shift := -((places.length * placeWeight : Nat) : Int)
    match rest with
    | [] => some (significand, shift)
    | m :: r => if isMark m then (exponent? r).map fun e => (significand, shift + e) else none

/-- `n * base ^ e` rounded, where `n` has `length` digits. Magnitudes out of reach of the format are
told by their length alone. -/
def ofScaled (negative : Bool) (base length n : Nat) (e : Int) : Binary64 :=
  if n = 0 then .zero .double negative
  else if length + e > 1200 then .infinity .double negative
  else if length + e < -1200 then .zero .double negative
  else if 0 ≤ e then .round .double negative (n * Nat.pow base e.toNat * Width.double.one) 1
  else .round .double negative (n * Width.double.one) (Nat.pow base (-e).toNat)

def hexadecimal? (negative : Bool) (s : List Char) : Option Numeral :=
  if s ≠ [] ∧ s.all isHexadecimal then
    let n : Int := positional 16 s
    some (.integer (Int64.ofInt (if negative then -n else n)))
  else
    (scaled? isHexadecimal (fun c => c == 'p' || c == 'P') 16 4 s).map fun (n, e) =>
      .float (ofScaled negative 2 (n.log2 + 1) n e)

def decimal? (negative : Bool) (s : List Char) : Option Numeral :=
  let n : Int := positional 10 s
  match if s ≠ [] ∧ s.all isDecimal then int64? (if negative then -n else n) else none with
  | some i => some (.integer i)
  | none =>
    (scaled? isDecimal (fun c => c == 'e' || c == 'E') 10 1 s).map fun (n, e) =>
      .float (ofScaled negative 10 n.repr.length n e)

def ofChars? (s : List Char) : Option Numeral :=
  match splitSign (trim s) with
  | (negative, '0' :: 'x' :: r) => hexadecimal? negative r
  | (negative, '0' :: 'X' :: r) => hexadecimal? negative r
  | (negative, r) => decimal? negative r

/-- Reads script bytes; only ASCII takes part in numerals. -/
def ofBytes? (bytes : ByteArray) : Option Numeral :=
  ofChars? (bytes.data.toList.map fun b => Char.ofNat b.toNat)

end Numeral

end ScriptBridge
