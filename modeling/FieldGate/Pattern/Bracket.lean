import FieldGate.Pattern.Escape

/-! Reading sets of characters in brackets, with ranges, nested brackets and set operators. -/
namespace FieldGate.Pattern

/-- The operators between the sets of a bracket. -/
inductive SetOperator
  | intersection
  | difference
  | symmetricDifference
  deriving DecidableEq, Repr

def SetOperator.apply : SetOperator → CharSet → CharSet → CharSet
  | intersection => .intersection
  | difference => .difference
  | symmetricDifference => .symmetricDifference

/-- An open bracket: what stands before the last operator in it, and the items after that, the
latest first. -/
structure Bracket where
  negated : Bool
  left : Option (SetOperator × CharSet) := none
  items : List CharSet := []

namespace Bracket

def push (b : Bracket) (s : CharSet) : Bracket := { b with items := s :: b.items }

/-- The set read so far. Operators bind to the left, and items more tightly than operators. -/
def value (f : Flags) (b : Bracket) : CharSet :=
  let right := CharSet.ofItems b.items.reverse
  match b.left with
  | none => right
  | some (op, left) => op.apply (f.fold left) (f.fold right)

def operate (f : Flags) (b : Bracket) (op : SetOperator) : Bracket :=
  { b with left := some (op, b.value f), items := [] }

def close (f : Flags) (b : Bracket) : CharSet :=
  .bracket (.complementIf b.negated (f.fold (b.value f)))

/-- What follows an opening bracket: a negation, then minus signs and a closing bracket that stand
for themselves. -/
def opened (f : Flags) (cs : List Char) : Bracket × List Char :=
  let cs := f.skip cs
  let (negated, cs) := match cs with
    | '^' :: rest => (true, f.skip rest)
    | _ => (false, cs)
  let (dashes, cs) := takeSpaced f (· == '-') cs.length cs
  let b : Bracket := { negated, items := dashes.map CharSet.char }
  match dashes, cs with
  | [], ']' :: rest => (b.push (.char ']'), f.skip rest)
  | _, _ => (b, cs)

def asciiClass? (f : Flags) (cs : List Char) : Option (CharSet × List Char) :=
  match cs with
  | ':' :: rest =>
    let (negated, rest) := match rest with
      | '^' :: r => (true, r)
      | r => (false, r)
    let name := rest.takeWhile (· != ':')
    match rest.dropWhile (· != ':') with
    | ':' :: ']' :: rest =>
      (CharSet.ascii? (String.ofList name)).map fun s =>
        (.complementIf negated (f.fold s), rest)
    | _ => none
  | _ => none

section Members

variable [Dialect]

def member? (f : Flags) : List Char → Option (Escaped × List Char)
  | [] => none
  | '\\' :: rest => escape? f rest
  | c :: rest => some (.char c, rest)

/-- A member or a range of characters. A minus sign before a closing bracket or another minus sign
makes no range. -/
def item? (f : Flags) (cs : List Char) : Option (CharSet × List Char) := do
  let (first, rest) ← member? f cs
  match f.skip rest with
  | [] => none
  | '-' :: rest =>
    if f.peek rest == some ']' || f.peek rest == some '-' then
      return (← alone first, '-' :: rest)
    let (last, rest) ← member? f (f.skip rest)
    match first, last with
    | .char lo, .char hi => if lo ≤ hi then some (.span lo hi, rest) else none
    | _, _ => none
  | rest => return (← alone first, rest)
where
  alone : Escaped → Option CharSet
    | .char c => some (.char c)
    | .set s => some s
    | .look _ => none

def read? (f : Flags) : Nat → Bracket → List Bracket → List Char → Option (CharSet × List Char)
  | 0, _, _, _ => none
  | fuel + 1, b, outer, cs =>
    match f.skip cs with
    | [] => none
    | '[' :: rest =>
      match asciiClass? f rest with
      | some (s, rest) => if f.admits s then read? f fuel (b.push s) outer rest else none
      | none =>
        let (inner, rest) := opened f rest
        read? f fuel inner (b :: outer) rest
    | ']' :: rest =>
      if f.admits (b.close f) then
        match outer with
        | [] => some (b.close f, rest)
        | parent :: outer => read? f fuel (parent.push (b.close f)) outer rest
      else none
    | '&' :: '&' :: rest => read? f fuel (b.operate f .intersection) outer rest
    | '-' :: '-' :: rest => read? f fuel (b.operate f .difference) outer rest
    | '~' :: '~' :: rest => read? f fuel (b.operate f .symmetricDifference) outer rest
    | rest =>
      match item? f rest with
      | some (s, rest) => if f.admits s then read? f fuel (b.push s) outer rest else none
      | none => none

end Members

end Bracket

end FieldGate.Pattern
