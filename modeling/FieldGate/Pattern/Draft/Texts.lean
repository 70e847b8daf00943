import FieldGate.Pattern.Draft
import FieldGate.Pattern.Utf8

/-! The states of a choice among texts, which share how they begin. -/
namespace FieldGate.Pattern.Draft

/-- The texts before, between and after the empty ones. -/
def splitAtEmpty : List (List Nat) → List (List (List Nat))
  | [] => [[]]
  | [] :: rest => [] :: splitAtEmpty rest
  | bs :: rest =>
    match splitAtEmpty rest with
    | [] => [[bs]]
    | first :: more => (bs :: first) :: more

/-- What follows the first bytes, a list of texts for each byte. -/
def groupByFirst (texts : List (List Nat)) : List (List (List Nat)) :=
  let firsts := (texts.filterMap List.head?).eraseDups
  firsts.map fun b => texts.filterMap fun
    | c :: rest => if c = b then some rest else none
    | [] => none

/-- The number of states that read one of the texts, and what they take beside the room that any
state takes. Where a text ends, those before it are chosen first: each lot is one choice by byte,
and a fork before them has a way to each, and one out wherever a text ends. Texts that are all empty
need no states. -/
def textStates : Nat → List (List Nat) → Nat × Nat
  | 0, _ => (0, 0)
  | fuel + 1, texts =>
    let texts := if texts.head? = some [] then [] :: texts.dropWhile List.isEmpty else texts
    if texts.all List.isEmpty then (0, 0)
    else
      let lots := splitAtEmpty texts
      let choices := (lots.filter fun lot => !lot.isEmpty).map groupByFirst
      choices.foldl
        (fun (states, extra) choice =>
          let room := if choice.length = 1 then 0 else rangeRoom * choice.length
          choice.foldl
            (fun (states, extra) rests =>
              let (s, e) := textStates fuel rests
              (states + s, extra + e))
            (states + 1, extra + room))
        (1, branchRoom * (choices.length + (lots.length - 1)))

/-- The states for a choice among texts, after those that are there, with one where all end. -/
def ofTexts (d : Direction) (base : Nat) (texts : List (List Char)) : Draft :=
  let bytes (cs : List Char) := cs.flatMap fun c => Utf8.bytes c.toNat
  let texts := texts.map fun cs =>
    match d with
    | .forward => bytes cs
    | .backward => (bytes cs).reverse
  let longest := texts.foldl (fun n bs => max n bs.length) 0
  let (states, extra) := textStates (longest + 1) texts
  { states := base + 1 + states, extra }

end FieldGate.Pattern.Draft
