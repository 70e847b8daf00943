import Std.Data.TreeMap

/-! States of an automaton under way, some of which are remembered so that they can be used again.
-/
namespace FieldGate.Pattern

/-- In which direction an automaton goes through a text. -/
inductive Direction
  | forward
  | backward
  deriving DecidableEq, Repr

def rangeRoom : Nat := 8

def branchRoom : Nat := 4

/-- How many states there are, which is also the number of the next one, what they take beside the
room that any state takes, and the states that are remembered, by slot. -/
structure Draft where
  states : Nat
  extra : Nat := 0
  slots : Std.TreeMap Nat (List Nat × Nat) := {}

namespace Draft

def mix (h : UInt64) : List Nat → UInt64
  | [] => h
  | n :: rest => mix ((h ^^^ n.toUInt64) * 1099511628211) rest

def slot (count : Nat) (key : List Nat) : Nat := (mix 14695981039346656037 key).toNat % count

def find? (d : Draft) (slot : Nat) (key : List Nat) : Option Nat :=
  match d.slots[slot]? with
  | some (k, n) => if k = key then some n else none
  | none => none

/-- The state for a key: the one in its slot if that has the same key, else a new one, which takes
the slot. -/
def state (d : Draft) (count : Nat) (key : List Nat) (extra : Nat) : Nat × Draft :=
  let slot := slot count key
  match d.find? slot key with
  | some n => (n, d)
  | none =>
    (d.states,
      { states := d.states + 1
        extra := d.extra + extra
        slots := d.slots.insert slot (key, d.states) })

end Draft

end FieldGate.Pattern
