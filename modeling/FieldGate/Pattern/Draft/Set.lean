import FieldGate.Pattern.Draft
import FieldGate.Pattern.Utf8

/-! The states that read one character of a set byte by byte. -/
namespace FieldGate.Pattern

open Unicode (Ranges)

/-- A state that chooses by byte, under way: the finished ranges with the states they lead to, and
the range whose state is still open. -/
structure Choice where
  done : List (Nat × Nat × Nat) := []
  last : Option Utf8.ByteRange := none

namespace Choice

def close (c : Choice) (next : Nat) : Choice :=
  match c.last with
  | some (lo, hi) => { done := c.done ++ [(lo, hi, next)] }
  | none => c

/-- Equal choices share a state while it is remembered, in one of ten thousand slots. -/
def settle (c : Choice) (d : Draft) : Nat × Draft :=
  d.state 10000 (c.done.flatMap fun (lo, hi, next) => [lo, hi, next]) (rangeRoom * c.done.length)

/-- Settles nested choices from within; the outermost is the first of the list. -/
def settleAll (stop : Nat) : List Choice → Draft → Nat × Draft
  | [], d => (stop, d)
  | c :: inner, d =>
    let (next, d) := settleAll stop inner d
    (c.close next).settle d

/-- Adds a sequence of byte ranges. What it shares with the sequence before stays open. -/
def add (stop : Nat) : List Utf8.ByteRange → List Choice → Draft → List Choice × Draft
  | r :: rest, c :: inner, d =>
    if c.last = some r then
      let (inner, d) := add stop rest inner d
      (c :: inner, d)
    else
      let (next, d) := settleAll stop inner d
      ({ c.close next with last := some r } :: rest.map fun r => { last := some r }, d)
  | rest, [], d => (rest.map fun r => { last := some r }, d)
  | [], spine, d => (spine, d)

end Choice

namespace Draft

/-- Forward, sequences share how they begin, and equal choices how they go on. -/
def forwardSet (base : Nat) (r : Ranges) : Draft :=
  let (choices, d) := (Utf8.sequences r).foldl
    (fun (choices, d) s => Choice.add base s choices d) ([{}], { states := base + 1 })
  (Choice.settleAll base choices d).2

/-- Backward, each sequence is a chain from a fork to a common end, and chains share their ends as
far as these are remembered, in one of a thousand slots each. -/
def backwardSet (base : Nat) (r : Ranges) : Draft :=
  (Utf8.sequences r).foldl
    (fun d s =>
      let (_, d) := s.foldl (fun (stop, d) (lo, hi) => d.state 1000 [stop, lo, hi] 0) (base + 1, d)
      { d with extra := d.extra + branchRoom })
    { states := base + 2 }

/-- The states for a set, after those that are there. ASCII sets, and the set without characters,
are one choice before an end. -/
def ofSet (d : Direction) (base : Nat) (r : Ranges) : Draft :=
  if r.all fun (_, hi) => hi ≤ 0x7F then { states := base + 2, extra := rangeRoom * r.length }
  else
    match d with
    | .forward => forwardSet base r
    | .backward => backwardSet base r

end Draft

end FieldGate.Pattern
