import FieldGate.Pattern.Draft.Set
import FieldGate.Pattern.Draft.Texts
import FieldGate.Pattern.Form
import FieldGate.Text

/-! How large the automata of a pattern are. They read bytes, and each state is a step: it reads a
byte, asks for a condition, forks, or begins or ends a group. -/
namespace FieldGate.Pattern

def stateRoom : Nat := 32

/-- Automata may take so much, ten times 2²⁰. -/
def roomLimit : Nat := 10485760

/-- What the states laid out so far take, and whether the last part ends in a state with several
ways on, where the link to what follows takes room. -/
structure Layout where
  states : Nat := 0
  extra : Nat := 0
  forked : Bool := false

namespace Layout

def extend? (l : Layout) (states extra : Nat) (forked : Bool) : Option Layout :=
  let l := { states := l.states + states, extra := l.extra + extra, forked }
  if stateRoom * l.states + l.extra ≤ roomLimit then some l else none

def grow? (l : Layout) (states extra : Nat) : Option Layout := l.extend? states extra false

def pay? (l : Layout) (extra : Nat) : Option Layout := l.extend? 0 extra l.forked

def link (l : Layout) : Nat := if l.forked then branchRoom else 0

def take? (l : Layout) (d : Draft) : Option Layout := l.grow? (d.states - l.states) d.extra

def more? (part : Layout → Option Layout) : Nat → Layout → Option Layout
  | 0, l => some l
  | n + 1, l => do more? part n (← (← part l).pay? l.link)

/-- The part so many times; a state of its own for no times. -/
def copies? (part : Layout → Option Layout) (n : Nat) (l : Layout) : Option Layout :=
  if n = 0 then l.grow? 1 0 else more? part n { l with forked := false }

/-- The part up to so many times more, with a fork before each that can leave for the end. -/
def options? (part : Layout → Option Layout) : Nat → Layout → Option Layout
  | 0, l => l.grow? 0 l.link
  | n + 1, l => do options? part n (← (← part (← l.grow? 1 0)).pay? (2 * branchRoom + l.link))

end Layout

namespace Form

def text? : Form → Option (List Char)
  | text cs => some cs
  | _ => none

open Layout

mutual

/-- Lays out the states of a form after others, as long as there is room. -/
def lay? (d : Direction) : Form → Layout → Option Layout
  | empty, l => l.grow? 1 0
  | text cs, l => l.grow? (Text.byteSize cs) 0
  | set r, l => l.take? (Draft.ofSet d l.states r)
  | look _, l => l.grow? 1 0
  | group _ body, l => do
    match d with
    | .forward =>
      let l ← lay? d body (← l.grow? 1 0)
      l.grow? 1 l.link
    | .backward => lay? d body l
  | concat parts, l => layInTurn? d parts { l with forked := false }
  | alternate branches, l =>
    match branches.mapM text? with
    | some texts => l.take? (Draft.ofTexts d l.states texts)
    | none => layBranches? d branches 1 l
  | repeated body least none _, l => do
    if 0 < least then
      let l ← copies? (lay? d body) least l
      l.extend? 1 (branchRoom + l.link) true
    else if 0 < body.shortest?.getD 0 then
      let l ← lay? d body (← l.grow? 1 0)
      l.extend? 0 (branchRoom + l.link) true
    else
      let l ← lay? d body l
      l.grow? 3 (4 * branchRoom + l.link)
  | repeated body least (some most) _, l => do
    if least = 0 ∧ most = 1 then
      let l ← lay? d body (← l.grow? 1 0)
      l.grow? 1 (2 * branchRoom + l.link)
    else
      let l ← copies? (lay? d body) least l
      if least = most then some l
      else options? (lay? d body) (most - least) (← l.extend? 1 0 l.forked)

def layInTurn? (d : Direction) : List Form → Layout → Option Layout
  | [], l => some l
  | f :: rest, l => do
    match d with
    | .forward => layInTurn? d rest (← (← lay? d f l).pay? l.link)
    | .backward =>
      let l ← layInTurn? d rest l
      (← lay? d f l).pay? l.link

/-- Branches from the given place on. A fork before all and an end after all come with the second
one. -/
def layBranches? (d : Direction) : List Form → Nat → Layout → Option Layout
  | [], _, l => some l
  | f :: rest, place, l => do
    let l ← lay? d f l
    layBranches? d rest (place + 1) (← l.grow? (if place = 2 then 2 else 0) (branchRoom + l.link))

end

/-- Whether the automaton of a direction has room. It begins by skipping what stands before a match
unless matches are bound to the edge of the text, and ends in a state that accepts. -/
def hasRoom (f : Form) (d : Direction) : Bool :=
  let bound : Bool :=
    match d with
    | .forward => f.opensWith .start
    | .backward => f.closesWith .stop
  let start : Layout := {}
  let all : Option Layout := do
    let l ← if bound then start.grow? 1 0 else start.grow? 3 (rangeRoom + 2 * branchRoom)
    let l ← (group 0 f).lay? d l
    l.grow? 1 l.link
  all.isSome

end Form

end FieldGate.Pattern
