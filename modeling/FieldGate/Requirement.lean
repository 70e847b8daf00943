import FieldGate.Declaration

/-! Requirements as trees of questions, checked from left to right and no further than needed. -/
namespace FieldGate

/-- A requirement whose leaves are questions of any kind. -/
inductive Requirement (α : Type)
  | leaf (question : α)
  | group (quantifier : Quantifier) (children : List (Requirement α))

/-- The outcome of checking a requirement, with the questions asked in their order. -/
structure Checked (ε α : Type) where
  outcome : Except ε Bool
  asked : List α

namespace Quantifier

/-- Whether the quantifier is met when so many of a number of members hold. -/
def counts (holding total : Nat) : Quantifier → Bool
  | all => holding == total
  | any => 0 < holding
  | none => holding == 0
  | one => holding == 1

/-- The verdict that one more member settles, given whether one before it held. -/
def settled? (found holds : Bool) : Quantifier → Option Bool
  | all => if holds then Option.none else some false
  | any => if holds then some true else Option.none
  | none => if holds then some false else Option.none
  | one => if holds && found then some false else Option.none

/-- The verdict when no member settled it, given whether one held. -/
def unsettled (found : Bool) : Quantifier → Bool
  | all => true
  | any => false
  | none => true
  | one => found

/-- Whether a group of one member means the same as the member. -/
def isIdentityForOne : Quantifier → Bool
  | none => false
  | _ => true

def title : Quantifier → String
  | all => "All"
  | any => "Any"
  | none => "None"
  | one => "One"

end Quantifier

namespace Requirement

variable {α ε : Type}

/-- Combines requirements. One alone stands for itself where the quantifier makes no difference. -/
def combine (q : Quantifier) : List (Requirement α) → Requirement α
  | [r] => if q.isIdentityForOne then r else group q [r]
  | children => group q children

def all (rs : List (Requirement α)) : Requirement α := combine .all rs

def any (rs : List (Requirement α)) : Requirement α := combine .any rs

def none (rs : List (Requirement α)) : Requirement α := combine .none rs

def one (rs : List (Requirement α)) : Requirement α := combine .one rs

def not (r : Requirement α) : Requirement α := group .none [r]

def isLeaf : Requirement α → Bool
  | leaf _ => true
  | group .. => false

def quantifier? : Requirement α → Option Quantifier
  | leaf _ => Option.none
  | group q _ => some q

def children : Requirement α → List (Requirement α)
  | leaf _ => []
  | group _ rs => rs

mutual

/-- Checks a requirement, given the answers to its questions. The first error ends the check, and
so does the first member that settles a group. -/
def check (answer : α → Except ε Bool) : Requirement α → Checked ε α
  | leaf a => ⟨answer a, [a]⟩
  | group q rs => checkEach answer q false rs

def checkEach (answer : α → Except ε Bool) (q : Quantifier) (found : Bool) :
    List (Requirement α) → Checked ε α
  | [] => ⟨.ok (q.unsettled found), []⟩
  | r :: rs =>
    match check answer r with
    | ⟨.error e, asked⟩ => ⟨.error e, asked⟩
    | ⟨.ok b, asked⟩ =>
      match q.settled? found b with
      | some verdict => ⟨.ok verdict, asked⟩
      | Option.none =>
        let rest := checkEach answer q (found || b) rs
        ⟨rest.outcome, asked ++ rest.asked⟩

end

mutual

/-- What a requirement means when every question has an answer: each group counts the members that
hold. -/
def meaning (answer : α → Bool) : Requirement α → Bool
  | leaf a => answer a
  | group q rs => q.counts (holding answer rs) rs.length

def holding (answer : α → Bool) : List (Requirement α) → Nat
  | [] => 0
  | r :: rs => (if meaning answer r then 1 else 0) + holding answer rs

end

mutual

def shape : Requirement α → String
  | leaf _ => "Leaf"
  | group q rs =>
    "Group \x7b quantifier: " ++ q.title ++ ", children: [" ++
      Text.join ", " (shapeEach rs) ++ "] \x7d"

def shapeEach : List (Requirement α) → List String
  | [] => []
  | r :: rs => shape r :: shapeEach rs

end

end Requirement

end FieldGate
