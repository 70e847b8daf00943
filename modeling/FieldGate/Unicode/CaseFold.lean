import FieldGate.Unicode.FoldRuns
import FieldGate.Unicode.Ranges

/-! Simple case folding, of single characters and of sets of them. -/
namespace FieldGate.Unicode

namespace FoldRun

def covers (r : FoldRun) (n : Nat) : Bool :=
  r.first ≤ n && n ≤ r.last && (n - r.first) % r.step == 0

def codes (r : FoldRun) : List Nat :=
  (List.range ((r.last - r.first) / r.step + 1)).map fun k => r.first + r.step * k

def targets (r : FoldRun) (s : Ranges) : Ranges :=
  let part := s.near r.first r.last
  if part.isEmpty then []
  else (r.codes.filter part.has).map fun n =>
    (r.target + (n - r.first), r.target + (n - r.first))

/-- The code points that the run folds to members of a set. -/
def sources (r : FoldRun) (s : Ranges) : Ranges :=
  let part := s.near r.target (r.target + (r.last - r.first))
  if part.isEmpty then []
  else (r.codes.filter fun n => part.has (r.target + (n - r.first))).map fun n => (n, n)

end FoldRun

def foldCode (n : Nat) : Nat :=
  match foldRuns.find? (·.covers n) with
  | some r => r.target + (n - r.first)
  | none => n

/-- A set with every character that folds as one of its members does. -/
def foldClosure (s : Ranges) : Ranges :=
  let folded := s.union (foldRuns.flatMap (·.targets s))
  folded.union (foldRuns.flatMap (·.sources folded))

/-- A set with both letters of each pair of ASCII letters that it has one of. -/
def foldClosureAscii (s : Ranges) : Ranges :=
  s.union <| (List.range 26).flatMap fun k =>
    if s.has (0x41 + k) || s.has (0x61 + k) then [(0x41 + k, 0x41 + k), (0x61 + k, 0x61 + k)]
    else []

def sameFold (c d : Char) : Bool := foldCode c.toNat == foldCode d.toNat

end FieldGate.Unicode
