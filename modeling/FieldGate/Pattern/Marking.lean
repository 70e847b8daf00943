import FieldGate.Pattern.Tree

/-! Matching by marks: a set of a pattern is marked where it has just read a character, and each
character moves all marks at once. -/
namespace FieldGate.Pattern

open Unicode (Ranges)

/-- A pattern with marks. Sequences and choices keep whether there is a mark in them. -/
inductive Marking
  | nothing
  | set (r : Ranges) (marked : Bool)
  | look (l : Look)
  | both (first second : Marking) (live : Bool)
  | either (left right : Marking) (live : Bool)
  | many (body : Marking)

namespace Marking

def live : Marking → Bool
  | nothing | look _ => false
  | set _ marked => marked
  | both _ _ live | either _ _ live => live
  | many body => body.live

def andThen : Marking → Marking → Marking
  | nothing, q => q
  | p, nothing => p
  | p, q => both p q (p.live || q.live)

def orElse (p q : Marking) : Marking := either p q (p.live || q.live)

/-- Whether a match under way, or one that enters here if `enter` is set, can end between two
characters without reading. -/
def ends (before after : Option Char) : Marking → Bool → Bool
  | nothing, enter => enter
  | set _ marked, _ => marked
  | look l, enter => enter && l.holds before after
  | both p q live, enter =>
    if enter || live then q.ends before after (p.ends before after enter) else false
  | either p q live, enter =>
    if enter || live then p.ends before after enter || q.ends before after enter else false
  | many p, enter => enter || p.ends before after enter

def read (before : Option Char) (c : Char) : Marking → Bool → Marking
  | nothing, _ => nothing
  | set r _, enter => set r (enter && r.has c.toNat)
  | look l, _ => look l
  | both p q live, enter =>
    if enter || live then
      (p.read before c enter).andThen (q.read before c (p.ends before (some c) enter))
    else both p q live
  | either p q live, enter =>
    if enter || live then (p.read before c enter).orElse (q.read before c enter)
    else either p q live
  | many p, enter => many (p.read before c (enter || p.ends before (some c) enter))

def search (before : Option Char) (p : Marking) : List Char → Bool
  | [] => p.ends before none true
  | c :: rest => p.ends before (some c) true || search (some c) (p.read before c true) rest

def gather (join : Marking → Marking → Marking) (none : Marking) (ps : List Marking) : Marking :=
  match ps with
  | [] => none
  | [p] => p
  | p :: q :: rest =>
    join (gather join none ((p :: q :: rest).take (rest.length / 2 + 1)))
      (gather join none ((p :: q :: rest).drop (rest.length / 2 + 1)))
termination_by ps.length
decreasing_by
  · simp only [List.length_take, List.length_cons]; omega
  · simp only [List.length_drop, List.length_cons]; omega

def times (p : Marking) (n : Nat) : Marking :=
  if n = 0 then nothing
  else if n = 1 then p
  else
    let half := p.times (n / 2)
    if n % 2 = 0 then half.andThen half else p.andThen (half.andThen half)

/-- At most so many times: up to half of them, or half of them and then up to half again, with one
more before either where the number is odd. Few marks are enough that way. -/
def upTo (p : Marking) (n : Nat) : Marking :=
  if n = 0 then nothing
  else if n = 1 then nothing.orElse p
  else
    let half := p.upTo (n / 2)
    let even := half.orElse ((p.times (n / 2)).andThen half)
    if n % 2 = 0 then even else nothing.orElse (p.andThen even)

def isIdle : Marking → Bool
  | nothing | look _ => true
  | set .. => false
  | both p q _ | either p q _ => p.isIdle && q.isIdle
  | many p => p.isIdle

/-- A number of times in turn, and more as far as a greatest number allows. What reads nothing need
not be repeated. -/
def turns (p : Marking) (least : Nat) (most : Option Nat) : Marking :=
  if p.isIdle then if least = 0 then nothing else p
  else
    (p.times least).andThen <| match most with
      | none => many p
      | some most => p.upTo (most - least)

end Marking

namespace Tree

mutual

def marking : Tree → Marking
  | empty => .nothing
  | set s => .set s.ranges false
  | look l => .look l
  | repeated body least most _ => body.marking.turns least most
  | group _ body => body.marking
  | concat parts => .gather .andThen .nothing (markingOfEach parts)
  | alternate branches => .gather .orElse (.set [] false) (markingOfEach branches)

def markingOfEach : List Tree → List Marking
  | [] => []
  | t :: rest => t.marking :: markingOfEach rest

end

end Tree

end FieldGate.Pattern
