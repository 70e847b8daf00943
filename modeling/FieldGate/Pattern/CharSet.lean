import FieldGate.Unicode.Properties
import FieldGate.Unicode.CaseFold

/-! Sets of characters that a pattern can ask for, and how deeply they are nested. -/
namespace FieldGate.Pattern

open Unicode (CodeSet Ranges)

/-- A set of characters as it is written in a pattern. -/
inductive CharSet
  | span (lo hi : Char)
  | table (codes : CodeSet)
  | word
  | complement (s : CharSet)
  | folded (s : CharSet)
  | foldedAscii (s : CharSet)
  | union (items : List CharSet)
  | intersection (s t : CharSet)
  | difference (s t : CharSet)
  | symmetricDifference (s t : CharSet)
  | bracket (s : CharSet)

namespace CharSet

def nothing : CharSet := table { ranges := [] }

def char (c : Char) : CharSet := span c c

def digit : CharSet := table { ranges := Unicode.decimalDigits, proper := by decide +kernel }

def blank : CharSet := table { ranges := Unicode.whiteSpace, proper := by decide +kernel }

def asciiDigit : CharSet := table { ranges := [(0x30, 0x39)] }

def asciiBlank : CharSet := table { ranges := [(0x09, 0x0D), (0x20, 0x20)] }

def asciiWord : CharSet :=
  table { ranges := [(0x30, 0x39), (0x41, 0x5A), (0x5F, 0x5F), (0x61, 0x7A)] }

def complementIf (negated : Bool) (s : CharSet) : CharSet := if negated then complement s else s

/-- The ASCII classes that may stand in brackets between `[:` and `:]`. -/
def ascii? : String → Option CharSet
  | "alnum" => some (table { ranges := [(0x30, 0x39), (0x41, 0x5A), (0x61, 0x7A)] })
  | "alpha" => some (table { ranges := [(0x41, 0x5A), (0x61, 0x7A)] })
  | "ascii" => some (table Unicode.asciiCodes)
  | "blank" => some (table { ranges := [(0x09, 0x09), (0x20, 0x20)] })
  | "cntrl" => some (table { ranges := [(0x00, 0x1F), (0x7F, 0x7F)] })
  | "digit" => some asciiDigit
  | "graph" => some (table { ranges := [(0x21, 0x7E)] })
  | "lower" => some (table { ranges := [(0x61, 0x7A)] })
  | "print" => some (table { ranges := [(0x20, 0x7E)] })
  | "punct" => some (table { ranges := [(0x21, 0x2F), (0x3A, 0x40), (0x5B, 0x60), (0x7B, 0x7E)] })
  | "space" => some asciiBlank
  | "upper" => some (table { ranges := [(0x41, 0x5A)] })
  | "word" => some asciiWord
  | "xdigit" => some (table { ranges := [(0x30, 0x39), (0x41, 0x46), (0x61, 0x66)] })
  | _ => none

mutual

def ranges : CharSet → Ranges
  | span lo hi =>
    if lo ≤ hi then .difference [(lo.toNat, hi.toNat)] Ranges.surrogates else []
  | table s => s.ranges
  | word => Unicode.wordChars
  | complement s => s.ranges.complement
  | folded s => Unicode.foldClosure s.ranges
  | foldedAscii s => Unicode.foldClosureAscii s.ranges
  | union items => .ofList (rangesOfEach items)
  | intersection s t => s.ranges.intersection t.ranges
  | difference s t => s.ranges.difference t.ranges
  | symmetricDifference s t => s.ranges.symmetricDifference t.ranges
  | bracket s => s.ranges

def rangesOfEach : List CharSet → List (Nat × Nat)
  | [] => []
  | s :: rest => s.ranges ++ rangesOfEach rest

end

mutual

/-- How deeply brackets, operators and lists of items are nested. -/
def depth : CharSet → Nat
  | span .. | table _ | word => 0
  | complement s | folded s | foldedAscii s => s.depth
  | union items => 1 + depthOfEach items
  | intersection s t | difference s t | symmetricDifference s t => 1 + max s.depth t.depth
  | bracket s => 1 + s.depth

def depthOfEach : List CharSet → Nat
  | [] => 0
  | s :: rest => max s.depth (depthOfEach rest)

end

def isAscii (s : CharSet) : Bool := s.ranges.all fun (_, hi) => hi ≤ 0x7F

/-- The union of items, which is a list of them only where there are several. -/
def ofItems : List CharSet → CharSet
  | [] => nothing
  | [s] => s
  | items => union items

end CharSet

end FieldGate.Pattern
