import ScriptBridge.Numeral
import ScriptBridge.Native.Type

/-!
# Ranges of whole numbers

Scripts have the whole numbers of 64 bits with a sign, a native type has those between its bounds.
Only unsigned types reach beyond what scripts have, and only upwards.
-/
namespace ScriptBridge
set_option autoImplicit false

theorem int64?_eq_some_iff {n : Int} {i : Int64} : int64? n = some i ↔ i.toInt = n := by
  have hLeast := i.minValue_le_toInt
  have hGreatest := i.toInt_le
  rw [int64?]
  constructor
  · intro h
    split at h
    · rename_i hRange
      rw [Int64.toInt_minValue, Int64.toInt_maxValue] at hRange
      rw [← Option.some.inj h]
      exact Int64.toInt_ofInt_of_le hRange.1 (by omega)
    · cases h
  · rintro rfl
    rw [if_pos ⟨hLeast, hGreatest⟩, Int64.ofInt_toInt]

theorem int64?_eq_none_iff {n : Int} :
    int64? n = none ↔ n < Int64.minValue.toInt ∨ Int64.maxValue.toInt < n := by
  rw [int64?]
  split
  · rename_i hRange
    exact ⟨nofun, fun h => by omega⟩
  · rename_i hRange
    exact ⟨fun _ => by omega, fun _ => rfl⟩

namespace IntegerType

theorem minValue_le_least (t : IntegerType) : Int64.minValue.toInt ≤ t.least := by
  rcases t with s | s <;> cases s <;> decide

theorem greatest_le_maxValue (s : IntegerSize) : (signed s).greatest ≤ Int64.maxValue.toInt := by
  cases s <;> decide

end IntegerType

theorem Bounded.ofInt?_eq_some_iff {t : IntegerType} {i : Int} {n : Bounded t} :
    Bounded.ofInt? t i = some n ↔ n.val = i := by
  rw [Bounded.ofInt?]
  constructor
  · intro h
    split at h
    · rw [← Option.some.inj h]
    · cases h
  · rintro rfl
    rw [dif_pos ⟨n.least_le, n.le_greatest⟩]

end ScriptBridge
