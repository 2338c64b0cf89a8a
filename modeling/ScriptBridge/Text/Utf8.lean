/-!
# Where bytes stop being UTF-8

Core decides whether bytes are UTF-8; this module locates the first fault, for error texts and for
text that has to be made of any bytes. A fault is a run of bytes that starts no character, or a
character cut short by the end.
-/
namespace ScriptBridge

theorem fromUTF8?_toUTF8 (s : String) : String.fromUTF8? s.toUTF8 = some s := by
  unfold String.fromUTF8?
  rw [String.toUTF8_eq_toByteArray, dif_pos s.isValidUTF8]
  rfl

namespace Utf8

/-- How many bytes follow this first byte, with the bounds for the first of them. -/
def form? (b : UInt8) : Option (Nat × UInt8 × UInt8) :=
  if b < 0x80 then some (0, 0, 0)
  else if b < 0xc2 then none
  else if b < 0xe0 then some (1, 0x80, 0xbf)
  else if b = 0xe0 then some (2, 0xa0, 0xbf)
  else if b = 0xed then some (2, 0x80, 0x9f)
  else if b < 0xf0 then some (2, 0x80, 0xbf)
  else if b = 0xf0 then some (3, 0x90, 0xbf)
  else if b < 0xf4 then some (3, 0x80, 0xbf)
  else if b = 0xf4 then some (3, 0x80, 0x8f)
  else none

structure Fault where
  index : Nat
  /-- Bytes that cannot start a character, or none if the bytes end too early. -/
  length : Option Nat
  deriving DecidableEq, Repr

def Fault.text (f : Fault) : String :=
  match f.length with
  | some n => s!"invalid utf-8 sequence of {n} bytes from index {f.index}"
  | none => s!"incomplete utf-8 byte sequence from index {f.index}"

/-- A character whose first byte is at `start`; `seen` bytes of it are read and `need` are missing.
-/
structure Pending where
  start : Nat
  seen : Nat
  need : Nat
  low : UInt8
  high : UInt8

/-- The first fault of bytes that begin at `index`, inside a character if one is pending. -/
def faultFrom (index : Nat) (pending : Option Pending) : List UInt8 → Option Fault
  | [] => pending.map fun p => ⟨p.start, none⟩
  | b :: rest =>
    match pending with
    | some p =>
      if p.low ≤ b ∧ b ≤ p.high then
        faultFrom (index + 1)
          (if p.need = 1 then none else some ⟨p.start, p.seen + 1, p.need - 1, 0x80, 0xbf⟩) rest
      else some ⟨p.start, some p.seen⟩
    | none =>
      match form? b with
      | none => some ⟨index, some 1⟩
      | some (0, _, _) => faultFrom (index + 1) none rest
      | some (need, low, high) => faultFrom (index + 1) (some ⟨index, 1, need, low, high⟩) rest

def fault? (bytes : ByteArray) : Option Fault := faultFrom 0 none bytes.data.toList

/-- Text with a replacement character for each fault; `fuel` bounds the number of faults. -/
def lossyFrom : (fuel : Nat) → List UInt8 → String
  | 0, _ => ""
  | fuel + 1, bytes =>
    match String.fromUTF8? ⟨bytes.toArray⟩ with
    | some s => s
    | none =>
      match faultFrom 0 none bytes with
      | none => ""
      | some f =>
        (String.fromUTF8? ⟨(bytes.take f.index).toArray⟩).getD "" ++ "\ufffd" ++
          match f.length with
          | some n => lossyFrom fuel (bytes.drop (f.index + n))
          | none => ""

def lossy (bytes : ByteArray) : String := lossyFrom (bytes.size + 1) bytes.data.toList

end Utf8

end ScriptBridge
