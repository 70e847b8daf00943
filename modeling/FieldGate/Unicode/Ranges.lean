/-! Sets of code points as lists of closed ranges. In the canonical list of a set the ranges
increase and leave gaps between them. -/
namespace FieldGate.Unicode

abbrev Ranges := List (Nat × Nat)

namespace Ranges

/-- Membership. The ranges increase, so the search ends at the first one above the code point. -/
def has : Ranges → Nat → Bool
  | [], _ => false
  | (lo, hi) :: rest, n => if n < lo then false else n ≤ hi || has rest n

/-- A range of characters, which is not empty and has no surrogate in it. -/
def IsRange (p : Nat × Nat) : Prop :=
  p.1 ≤ p.2 ∧ (p.2 < 0xD800 ∨ 0xDFFF < p.1 ∧ p.2 ≤ 0x10FFFF)

/-- The ranges of a set of characters, in order and apart from each other. -/
structure Proper (r : Ranges) : Prop where
  ranges : ∀ p ∈ r, IsRange p
  apart : r.Pairwise fun p q => p.2 < q.1

instance : DecidablePred IsRange := fun _ => inferInstanceAs (Decidable (_ ∧ _))

instance (r : Ranges) : Decidable (Proper r) :=
  decidable_of_iff ((∀ p ∈ r, IsRange p) ∧ r.Pairwise fun p q => p.2 < q.1)
    ⟨fun h => ⟨h.1, h.2⟩, fun h => ⟨h.ranges, h.apart⟩⟩

/-- Joins what overlaps or touches, for ranges that begin in order. -/
def joinFrom (lo hi : Nat) : Ranges → Ranges
  | [] => [(lo, hi)]
  | (a, b) :: rest =>
    if a ≤ hi + 1 then joinFrom lo (max hi b) rest else (lo, hi) :: joinFrom a b rest

def insert (p : Nat × Nat) : Ranges → Ranges
  | [] => [p]
  | q :: rest => if p.1 ≤ q.1 then p :: q :: rest else q :: insert p rest

/-- The ranges by where they begin. -/
def inOrder (rs : List (Nat × Nat)) : Ranges := rs.foldr insert []

def ofList (rs : List (Nat × Nat)) : Ranges :=
  match inOrder rs with
  | [] => []
  | (lo, hi) :: rest => joinFrom lo hi rest

def union (r s : Ranges) : Ranges := ofList (r ++ s)

def remainder (lo hi : Nat) : Ranges → Ranges
  | [] => [(lo, hi)]
  | (a, b) :: rest =>
    if b < lo then remainder lo hi rest
    else if hi < a then [(lo, hi)]
    else
      let below := if lo < a then [(lo, a - 1)] else []
      if b < hi then below ++ remainder (b + 1) hi rest else below

def difference (r s : Ranges) : Ranges := r.flatMap fun (lo, hi) => remainder lo hi s

def surrogates : Ranges := [(0xD800, 0xDFFF)]

def scalars : Ranges := difference [(0, 0x10FFFF)] surrogates

def complement (r : Ranges) : Ranges := difference scalars r

def intersection (r s : Ranges) : Ranges := difference r (complement s)

def symmetricDifference (r s : Ranges) : Ranges := union (difference r s) (difference s r)

def near (r : Ranges) (lo hi : Nat) : Ranges := r.filter fun (a, b) => a ≤ hi && lo ≤ b

end Ranges

/-- A set of characters. -/
structure CodeSet where
  ranges : Ranges
  proper : ranges.Proper := by decide

end FieldGate.Unicode
