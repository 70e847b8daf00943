import FieldGate.Pattern.Tree

/-! Patterns in normal form: neighbouring characters make one text, sequences and choices are flat,
choices among characters are sets, and what reads nothing is repeated at most once. -/
namespace FieldGate.Pattern

open Unicode (Ranges)

inductive Form
  | empty
  | text (cs : List Char)
  | set (r : Ranges)
  | look (l : Look)
  | repeated (body : Form) (least : Nat) (most : Option Nat) (lazy : Bool)
  | group (number : Nat) (body : Form)
  | concat (parts : List Form)
  | alternate (branches : List Form)

namespace Form

mutual

/-- How many characters the form reads at least. There is no such number where a part of it never
matches. -/
def shortest? : Form → Option Nat
  | empty | look _ => some 0
  | text cs => some cs.length
  | set r => if r.isEmpty then none else some 1
  | repeated body least _ _ => body.shortest?.map (least * ·)
  | group _ body => body.shortest?
  | concat parts => shortestInTurn? parts
  | alternate branches => shortestOfAny? branches

def shortestInTurn? : List Form → Option Nat
  | [] => some 0
  | f :: rest =>
    match f.shortest?, shortestInTurn? rest with
    | some m, some n => some (m + n)
    | _, _ => none

def shortestOfAny? : List Form → Option Nat
  | [] => none
  | [f] => f.shortest?
  | f :: rest =>
    match f.shortest?, shortestOfAny? rest with
    | some m, some n => some (min m n)
    | _, _ => none

end

mutual

/-- Whether no match of the form reads a character, and the form is no empty set. -/
def readsNothing : Form → Bool
  | empty | look _ => true
  | text cs => cs.isEmpty
  | set _ => false
  | repeated body _ _ _ => body.readsNothing
  | group _ body => body.readsNothing
  | concat parts => allReadNothing parts
  | alternate branches => allReadNothing branches

def allReadNothing : List Form → Bool
  | [] => true
  | f :: rest => f.readsNothing && allReadNothing rest

end

mutual

def opensWith (l : Look) : Form → Bool
  | look k => k == l
  | repeated body least _ _ => 0 < least && body.opensWith l
  | group _ body => body.opensWith l
  | concat parts => firstOpensWith l parts
  | alternate branches => allOpenWith l branches
  | _ => false

/-- Whether one of the parts that lie at the beginning asks for the condition. -/
def firstOpensWith (l : Look) : List Form → Bool
  | [] => false
  | f :: rest => f.opensWith l || (f.readsNothing && firstOpensWith l rest)

def allOpenWith (l : Look) : List Form → Bool
  | [] => true
  | f :: rest => f.opensWith l && allOpenWith l rest

end

mutual

def closesWith (l : Look) : Form → Bool
  | look k => k == l
  | repeated body least _ _ => 0 < least && body.closesWith l
  | group _ body => body.closesWith l
  | concat parts => lastClosesWith l parts
  | alternate branches => allCloseWith l branches
  | _ => false

/-- Whether one of the parts that lie at the end asks for the condition. -/
def lastClosesWith (l : Look) : List Form → Bool
  | [] => false
  | f :: rest => lastClosesWith l rest || (allReadNothing rest && f.closesWith l)

def allCloseWith (l : Look) : List Form → Bool
  | [] => true
  | f :: rest => f.closesWith l && allCloseWith l rest

end

mutual

def same : Form → Form → Bool
  | empty, empty => true
  | text cs, text ds => cs == ds
  | set r, set s => r == s
  | look k, look l => k == l
  | repeated f m n b, repeated g i j c => m == i && n == j && b == c && f.same g
  | group m f, group n g => m == n && f.same g
  | concat fs, concat gs => sameInTurn fs gs
  | alternate fs, alternate gs => sameInTurn fs gs
  | _, _ => false

def sameInTurn : List Form → List Form → Bool
  | [], [] => true
  | f :: fs, g :: gs => f.same g && sameInTurn fs gs
  | _, _ => false

end

def ofRanges (r : Ranges) : Form :=
  match r with
  | [(lo, hi)] => if lo = hi then text [Char.ofNat lo] else set r
  | _ => set r

def putBefore : Form → List Form → List Form
  | empty, rest => rest
  | text cs, text ds :: rest => text (cs ++ ds) :: rest
  | f, rest => f :: rest

def flatParts : List Form → List Form
  | [] => []
  | concat parts :: rest => parts.foldr putBefore (flatParts rest)
  | f :: rest => putBefore f (flatParts rest)

def sequence (parts : List Form) : Form :=
  match flatParts parts with
  | [] => empty
  | [f] => f
  | parts => concat parts

def flatBranches (branches : List Form) : List Form :=
  branches.flatMap fun
    | alternate inner => inner
    | f => [f]

def charRange? : Form → Option (Nat × Nat)
  | text [c] => some (c.toNat, c.toNat)
  | _ => none

def ranges? : Form → Option Ranges
  | set r => some r
  | _ => none

/-- The set that a choice comes to: among characters, or among sets. -/
def commonSet? (branches : List Form) : Option Ranges :=
  match branches.mapM charRange?, branches.mapM ranges? with
  | some rs, _ => some (.ofList rs)
  | none, some rs => some (.ofList rs.flatten)
  | none, none => none

def parts : Form → List Form
  | concat ps => ps
  | _ => []

def sharedStart : List Form → List Form → List Form
  | f :: fs, g :: gs => if f.same g then f :: sharedStart fs gs else []
  | _, _ => []

/-- The parts with which all sequences begin. Anything but a sequence has no parts. -/
def sharedParts : List Form → List Form
  | [] => []
  | f :: rest => rest.foldl (fun shared g => sharedStart shared g.parts) f.parts

/-- A choice that is a set or a single branch where it can be; `several` is the form of others. -/
def choiceOr (several : List Form → Form) (branches : List Form) : Form :=
  match flatBranches branches with
  | [f] => f
  | branches =>
    match commonSet? branches with
    | some r => ofRanges r
    | none => several branches

def choice : List Form → Form :=
  choiceOr fun branches =>
    let shared := sharedParts branches
    if shared.isEmpty then alternate branches
    else
      let rests := branches.map fun f => sequence (f.parts.drop shared.length)
      sequence (shared ++ [choiceOr alternate rests])

def repetition (body : Form) (least : Nat) (most : Option Nat) (lazy : Bool) : Form :=
  let idle := body.readsNothing
  let least := if idle then min least 1 else least
  let most := if idle then some (min (most.getD 1) 1) else most
  if least = 0 ∧ most = some 0 then empty
  else if least = 1 ∧ most = some 1 then body
  else repeated body least most lazy

end Form

namespace Tree

mutual

/-- The normal form. Groups without a number vanish. -/
def form : Tree → Form
  | empty => .empty
  | set s => .ofRanges s.ranges
  | look l => .look l
  | repeated body least most lazy => .repetition body.form least most lazy
  | group (some n) body => .group n body.form
  | group none body => body.form
  | concat parts => .sequence (formOfEach parts)
  | alternate branches => .choice (formOfEach branches)

def formOfEach : List Tree → List Form
  | [] => []
  | t :: rest => t.form :: formOfEach rest

end

end Tree

end FieldGate.Pattern
