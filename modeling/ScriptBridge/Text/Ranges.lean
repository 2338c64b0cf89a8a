/-!
# Classes of characters

A class is an array of ranges of code points in ascending order, searched by halving.
-/
namespace ScriptBridge.Ranges

/-- Binary search in ascending ranges; `steps` bounds the halvings. -/
def search (table : Array (Nat × Nat)) (n : Nat) : (steps lo hi : Nat) → Bool
  | 0, _, _ => false
  | steps + 1, lo, hi =>
    if hi ≤ lo then false
    else
      let mid := (lo + hi) / 2
      match table[mid]? with
      | none => false
      | some (first, last) =>
        if n < first then search table n steps lo mid
        else if last < n then search table n steps (mid + 1) hi
        else true

def contains (table : Array (Nat × Nat)) (c : Char) : Bool :=
  search table c.toNat (table.size.log2 + 2) 0 table.size

end ScriptBridge.Ranges
