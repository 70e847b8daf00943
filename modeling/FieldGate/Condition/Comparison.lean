import FieldGate.Text

/-! Comparisons of numbers and the operators they are written with. -/
namespace FieldGate

/-- The operators of conditions on numbers. -/
inductive Comparison
  | equal | notEqual | greater | atLeast | less | atMost
  deriving DecidableEq, Repr

namespace Comparison

def symbol : Comparison → String
  | equal => "=="
  | notEqual => "!="
  | greater => ">"
  | atLeast => ">="
  | less => "<"
  | atMost => "<="

/-- Takes a leading operator off, a long one before a short one that begins it. Without an operator
numbers are compared for equality. -/
def split (cs : List Char) : Comparison × List Char :=
  match [equal, notEqual, atLeast, atMost, greater, less].findSome? fun op =>
      (Text.after? op.symbol.toList cs).map (op, ·) with
  | some found => found
  | none => (equal, cs)

/-- Whether the comparison holds of two numbers in the given order. Numbers without an order are
only unequal. -/
def holds : Comparison → Option Ordering → Bool
  | op, none => op == notEqual
  | equal, some o => o == .eq
  | notEqual, some o => o != .eq
  | greater, some o => o == .gt
  | atLeast, some o => o != .lt
  | less, some o => o == .lt
  | atMost, some o => o != .gt

end Comparison

end FieldGate
