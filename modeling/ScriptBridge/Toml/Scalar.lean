import ScriptBridge.Toml.Quoted
import ScriptBridge.Toml.Value

/-!
# Numbers, truth values, dates and times

Values that are written as one word. Underscores may stand between digits, a decimal whole number
has no leading zero, and whole numbers have 64 bits. A float beyond the greatest finite one is
refused unless it is negative. A date and a time of day may be joined by a blank, so they are the
one value of two words.
-/
namespace ScriptBridge.Toml

def isWord (c : Char) : Bool :=
  c.isAlphanum || c == '+' || c == '-' || c == '_' || c == '.' || c == ':'

/-- The digits of a number without the underscores between them. -/
def ungrouped? (isDigit : Char → Bool) : List Char → Option (List Char)
  | [] => none
  | [c] => if isDigit c then some [c] else none
  | c :: '_' :: r => if isDigit c then (ungrouped? isDigit r).map (c :: ·) else none
  | c :: r => if isDigit c then (ungrouped? isDigit r).map (c :: ·) else none

/-- The digits of a decimal whole number, which has no leading zero. -/
def decimalDigits? (s : List Char) : Option (List Char) :=
  match s with
  | ['0'] => some s
  | '0' :: _ => none
  | _ => ungrouped? isDecimal s

def based? (base : Nat) (isDigit : Char → Bool) (s : List Char) : Option Int64 := do
  int64? (positional base (← ungrouped? isDigit s))

def integer? : List Char → Option Int64
  | '0' :: 'x' :: r => based? 16 isHexadecimal r
  | '0' :: 'o' :: r => based? 8 (fun c => '0' ≤ c && c ≤ '7') r
  | '0' :: 'b' :: r => based? 2 (fun c => c == '0' || c == '1') r
  | s => do
    let (minus, r) := Numeral.splitSign s
    let n : Int := positional 10 (← decimalDigits? r)
    int64? (if minus then -n else n)

def exponent? (s : List Char) : Option Int := do
  let (minus, r) := Numeral.splitSign s
  let n : Int := positional 10 (← ungrouped? isDecimal r)
  return if minus then -n else n

/-- What follows the whole part of a float: decimal places, an exponent or both. -/
def scale? : List Char → Option (List Char × Int)
  | '.' :: r => do
    let places ← ungrouped? isDecimal (r.takeWhile fun c => isDecimal c || c == '_')
    match r.dropWhile fun c => isDecimal c || c == '_' with
    | [] => return (places, 0)
    | m :: r => if m == 'e' || m == 'E' then return (places, ← exponent? r) else none
  | m :: r => do if m == 'e' || m == 'E' then return ([], ← exponent? r) else none
  | [] => none

def float? (s : List Char) : Option Binary64 :=
  let (minus, r) := Numeral.splitSign s
  match r with
  | ['i', 'n', 'f'] => some (.infinity .double minus)
  | ['n', 'a', 'n'] => some (.nan .double minus)
  | _ => do
    let whole ← decimalDigits? (r.takeWhile fun c => isDecimal c || c == '_')
    let (places, exponent) ← scale? (r.dropWhile fun c => isDecimal c || c == '_')
    let n := positional 10 (whole ++ places)
    let x := Numeral.ofScaled minus 10 n.repr.length n (exponent - places.length)
    if x.isInfinite && !minus then none else some x

/-! ## Dates and times -/

/-- A number of exactly two digits within bounds. -/
def pair? (low high : Nat) (a b : Char) : Option Nat :=
  let n := positional 10 [a, b]
  if isDecimal a && isDecimal b && low ≤ n && n ≤ high then some n else none

def isLeap (year : Nat) : Bool := year % 4 == 0 && (year % 100 != 0 || year % 400 == 0)

def daysIn (year month : Nat) : Nat :=
  if month = 2 then if isLeap year then 29 else 28
  else if month = 4 ∨ month = 6 ∨ month = 9 ∨ month = 11 then 30
  else 31

def afterDate? : List Char → Option (List Char)
  | a :: b :: c :: d :: '-' :: e :: f :: '-' :: g :: h :: r =>
    if [a, b, c, d].all isDecimal then do
      let month ← pair? 1 12 e f
      let _ ← pair? 1 (daysIn (positional 10 [a, b, c, d]) month) g h
      return r
    else none
  | _ => none

/-- What follows a time of day; a second may be a leap second. -/
def afterClock? : List Char → Option (List Char)
  | a :: b :: ':' :: c :: d :: ':' :: e :: f :: r => do
    let _ ← pair? 0 23 a b
    let _ ← pair? 0 59 c d
    let _ ← pair? 0 60 e f
    match r with
    | '.' :: p :: r => if isDecimal p then return r.dropWhile isDecimal else none
    | _ => return r
  | _ => none

/-- An offset from universal time, or none. -/
def isOffset : List Char → Bool
  | [] => true
  | [c] => c == 'Z' || c == 'z'
  | [sign, a, b, ':', c, d] =>
    (sign == '+' || sign == '-') && (pair? 0 23 a b).isSome && (pair? 0 59 c d).isSome
  | _ => false

def isClock (s : List Char) : Bool := (afterClock? s).any isOffset

def isDate (s : List Char) : Bool := afterDate? s == some []

def isDateTime (s : List Char) : Bool :=
  match afterDate? s with
  | some [] => true
  | some (t :: r) => (t == 'T' || t == 't') && isClock r
  | none => afterClock? s == some []

/-! ## Words -/

def word? (s : List Char) : Option Value :=
  if s = ['t', 'r', 'u', 'e'] then some (.boolean true)
  else if s = ['f', 'a', 'l', 's', 'e'] then some (.boolean false)
  else if isDateTime s then some .dateTime
  else
    match integer? s, float? s with
    | some i, _ => some (.integer i)
    | none, some x => some (.float x)
    | none, none => none

/-- What follows the time of day that may come after a date and a blank. -/
def skipClock (s : List Char) : List Char :=
  match s with
  | ' ' :: r => if isClock (r.takeWhile isWord) then r.dropWhile isWord else s
  | _ => s

def scalar? (s : List Char) : Option (Value × List Char) :=
  match string? s with
  | some (text, rest) => some (.text (String.ofList text), rest)
  | none =>
    let word := s.takeWhile isWord
    let rest := s.dropWhile isWord
    (word? word).map fun v => (v, if isDate word then skipClock rest else rest)

end ScriptBridge.Toml
