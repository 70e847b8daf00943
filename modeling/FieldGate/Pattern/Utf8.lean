import FieldGate.Unicode.Ranges

/-! Sets of characters as sequences of byte ranges in UTF-8. -/
namespace FieldGate.Pattern.Utf8

open Unicode (Ranges)

abbrev ByteRange := Nat × Nat

/-- Where a range of code points has to be cut, as the last one before the cut: between characters
of different lengths, and wherever it does not run through whole blocks of last bytes. -/
def cut? (lo hi : Nat) : Option Nat :=
  match [0x7F, 0x7FF, 0xFFFF].find? fun last => lo ≤ last && last < hi with
  | some last => some last
  | none =>
    if hi ≤ 0x7F then none
    else [0x40, 0x1000, 0x40000].findSome? fun block =>
      if lo / block = hi / block then none
      else if lo % block ≠ 0 then some (lo / block * block + (block - 1))
      else if hi % block ≠ block - 1 then some (hi / block * block - 1)
      else none

/-- The pieces of a range that one sequence of byte ranges covers each. -/
def pieces (lo hi : Nat) : List (Nat × Nat) :=
  match cut? lo hi with
  | none => [(lo, hi)]
  | some k => if lo ≤ k ∧ k < hi then pieces lo k ++ pieces (k + 1) hi else [(lo, hi)]
termination_by hi - lo

def bytes (n : Nat) : List Nat := (String.utf8EncodeChar (Char.ofNat n)).map UInt8.toNat

def sequences (r : Ranges) : List (List ByteRange) :=
  r.flatMap fun (lo, hi) => (pieces lo hi).map fun (a, b) => (bytes a).zip (bytes b)

end FieldGate.Pattern.Utf8
