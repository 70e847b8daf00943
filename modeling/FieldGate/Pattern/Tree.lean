import FieldGate.Pattern.CharSet
import FieldGate.Pattern.Look

/-! Patterns as they are written. -/
namespace FieldGate.Pattern

/-- A pattern. A group is numbered where what it matches can be asked for; the other groups only
hold their parts together. -/
inductive Tree
  | empty
  | set (s : CharSet)
  | look (l : Look)
  | repeated (body : Tree) (least : Nat) (most : Option Nat) (lazy : Bool)
  | group (number : Option Nat) (body : Tree)
  | concat (parts : List Tree)
  | alternate (branches : List Tree)

namespace Tree

mutual

def depth : Tree → Nat
  | empty => 0
  | set s => s.depth
  | look _ => 0
  | repeated body _ _ _ => 1 + body.depth
  | group _ body => 1 + body.depth
  | concat parts => 1 + depthOfEach parts
  | alternate branches => 1 + depthOfEach branches

def depthOfEach : List Tree → Nat
  | [] => 0
  | t :: rest => max t.depth (depthOfEach rest)

end

def ofParts : List Tree → Tree
  | [] => empty
  | [t] => t
  | parts => concat parts

def ofBranches : List Tree → Tree
  | [t] => t
  | branches => alternate branches

end Tree

end FieldGate.Pattern
