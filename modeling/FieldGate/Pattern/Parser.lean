import FieldGate.Pattern.Bracket

/-! Reading a pattern into its tree. -/
namespace FieldGate.Pattern

/-- A group under way: the finished branches and the parts of the current one, the latest first.
For a group that waits for an inner one, `flags` are those to go back to. -/
structure Level where
  flags : Flags
  number : Option Nat := none
  branches : List Tree := []
  parts : List Tree := []

namespace Level

def branch (l : Level) : Tree := .ofParts l.parts.reverse

def value (l : Level) : Tree := .ofBranches (l.branch :: l.branches).reverse

def asGroup (l : Level) : Tree := .group l.number l.value

def push (l : Level) (t : Tree) : Level := { l with parts := t :: l.parts }

end Level

/-- Where the reader stands: the innermost group with the flags in force, the groups around it, the
innermost first, how many groups are numbered, and the names of groups so far. -/
structure Progress where
  level : Level
  outer : List Level := []
  numbered : Nat := 0
  names : List (List Char) := []

/-- What a character stands for that is no sign. Characters beyond ASCII have no case where only
ASCII counts. -/
def Flags.charSet (f : Flags) (c : Char) : CharSet := f.fold (.char c)

namespace Progress

def start : Progress := { level := { flags := {} } }

def flags (p : Progress) : Flags := p.level.flags

def push (p : Progress) (t : Tree) : Progress := { p with level := p.level.push t }

def pushSet (p : Progress) (s : CharSet) : Progress := p.push (.set s)

def pushChar (p : Progress) (c : Char) : Progress :=
  p.pushSet (p.flags.charSet c)

def openGroup (p : Progress) (f : Flags) : Progress :=
  { p with level := { flags := f }, outer := p.level :: p.outer }

def openNumbered (p : Progress) : Progress :=
  let number := p.numbered + 1
  { p with
    level := { flags := p.flags, number := some number }
    outer := p.level :: p.outer
    numbered := number }

def closeGroup? (p : Progress) : Option Progress :=
  match p.outer with
  | [] => none
  | l :: outer => some { p with level := l.push p.level.asGroup, outer }

def nextBranch (p : Progress) : Progress :=
  { p with level := { p.level with branches := p.level.branch :: p.level.branches, parts := [] } }

/-- Sets flags for the rest of the innermost group. Nothing is left that could be repeated. -/
def setFlags (p : Progress) (f : Flags) : Progress :=
  { p with level := { p.level with flags := f, parts := .empty :: p.level.parts } }

def repeat? (p : Progress) (least : Nat) (most : Option Nat) (lazy : Bool) : Option Progress :=
  match p.level.parts with
  | [] => none
  | .empty :: _ => none
  | t :: parts =>
    let t := .repeated t least most (lazy != p.flags.swapGreed)
    some { p with level := { p.level with parts := t :: parts } }

def finish? (p : Progress) : Option Tree := if p.outer.isEmpty then some p.level.value else none

end Progress

def Flags.set? (f : Flags) (on : Bool) : Char → Option Flags
  | 'i' => some { f with caseless := on }
  | 'm' => some { f with multiline := on }
  | 's' => some { f with dotAll := on }
  | 'U' => some { f with swapGreed := on }
  | 'R' => some { f with crlf := on }
  | 'x' => some { f with ignoreBlanks := on }
  | 'u' => some { f with ascii := !on }
  | _ => none

/-- Reads the letters of a flag group up to its colon or parenthesis: each letter at most once, and
at most one minus sign, which a letter follows. -/
def flagLetters? (f : Flags) (seen : List Char) : List Char → Option (Flags × List Char × List Char)
  | [] => none
  | c :: rest =>
    if c == ':' || c == ')' then
      if seen.head? == some '-' then none else some (f, seen, c :: rest)
    else if seen.contains c then none
    else if c == '-' then flagLetters? f (c :: seen) rest
    else match f.set? (!seen.contains '-') c with
      | some f => flagLetters? f (c :: seen) rest
      | none => none

def isNameChar (first : Bool) (c : Char) : Bool :=
  c == '_' ||
    if first then Unicode.isAlphabetic c
    else c == '.' || c == '[' || c == ']' || Unicode.isAlphanumeric c

def groupName? (cs : List Char) : Option (List Char × List Char) :=
  match cs.takeWhile (· != '>'), cs.dropWhile (· != '>') with
  | c :: name, _ :: rest =>
    if isNameChar true c && name.all (isNameChar false) then some (c :: name, rest) else none
  | _, _ => none

def openNamed? (p : Progress) (cs : List Char) : Option (Progress × List Char) :=
  match groupName? cs with
  | some (name, rest) =>
    if p.names.contains name then none
    else some ({ p.openNumbered with names := name :: p.names }, rest)
  | none => none

/-- Reads what follows an opening parenthesis. Groups that look ahead or behind are refused. -/
def openGroup? (p : Progress) (cs : List Char) : Option (Progress × List Char) :=
  match p.flags.skip cs with
  | '?' :: '=' :: _ | '?' :: '!' :: _ | '?' :: '<' :: '=' :: _ | '?' :: '<' :: '!' :: _ => none
  | '?' :: 'P' :: '<' :: rest => openNamed? p rest
  | '?' :: '<' :: rest => openNamed? p rest
  | '?' :: rest =>
    match flagLetters? p.flags [] rest with
    | some (f, _, ':' :: rest) => some (p.openGroup f, rest)
    | some (f, _ :: _, ')' :: rest) => some (p.setFlags f, rest)
    | _ => none
  | rest => some (p.openNumbered, rest)

def takeLazy : List Char → Bool × List Char
  | '?' :: rest => (true, rest)
  | cs => (false, cs)

def repeatLast? (p : Progress) (least : Nat) (most : Option Nat) (cs : List Char) :
    Option (Progress × List Char) :=
  let (lazy, rest) := takeLazy cs
  (p.repeat? least most lazy).map (·, rest)

def bounds? (f : Flags) (cs : List Char) : Option (Nat × Option Nat × List Char) := do
  let (least, rest) ← count? f (f.skip cs)
  match rest with
  | '}' :: rest => some (least, some least, rest)
  | ',' :: rest =>
    match f.skip rest with
    | '}' :: rest => some (least, none, rest)
    | rest =>
      let (most, rest) ← count? f rest
      match rest with
      | '}' :: rest => if least ≤ most then some (least, some most, rest) else none
      | _ => none
  | _ => none

def lineStart (f : Flags) : Look := if f.multiline then .lineStart f.crlf else .start

def lineStop (f : Flags) : Look := if f.multiline then .lineStop f.crlf else .stop

/-- The characters that a dot stands for, which are too many where only ASCII counts. -/
def dot? (f : Flags) : Option CharSet :=
  if f.ascii then none
  else if f.dotAll then some (.complement .nothing)
  else if f.crlf then some (.complement (.union [.char '\n', .char '\r']))
  else some (.complement (.char '\n'))

section Reading

variable [Dialect]

/-- Reads one thing: a group sign, a repetition, a set, an escape or a character. -/
def step? (p : Progress) : List Char → Option (Progress × List Char)
  | [] => none
  | '(' :: rest => openGroup? p rest
  | ')' :: rest => p.closeGroup?.map (·, rest)
  | '|' :: rest => some (p.nextBranch, rest)
  | '[' :: rest =>
    let (b, rest) := Bracket.opened p.flags rest
    (b.read? p.flags (rest.length + 1) [] rest).map fun (s, rest) => (p.pushSet s, rest)
  | '?' :: rest => repeatLast? p 0 (some 1) rest
  | '*' :: rest => repeatLast? p 0 none rest
  | '+' :: rest => repeatLast? p 1 none rest
  | '{' :: rest =>
    match bounds? p.flags rest with
    | some (least, most, rest) => repeatLast? p least most (p.flags.skip rest)
    | none => none
  | '\\' :: rest =>
    match escape? p.flags rest with
    | some (.char c, rest) => some (p.pushChar c, rest)
    | some (.set s, rest) => some (p.pushSet s, rest)
    | some (.look l, rest) => some (p.push (.look l), rest)
    | none => none
  | '.' :: rest => (dot? p.flags).map fun s => (p.pushSet s, rest)
  | '^' :: rest => some (p.push (.look (lineStart p.flags)), rest)
  | '$' :: rest => some (p.push (.look (lineStop p.flags)), rest)
  | c :: rest => some (p.pushChar c, rest)

/-- Reads the rest of a pattern. Each step takes a character at least. -/
def run? : Nat → Progress → List Char → Option Tree
  | 0, _, _ => none
  | fuel + 1, p, cs =>
    match p.flags.skip cs with
    | [] => p.finish?
    | cs =>
      match step? p cs with
      | some (p, rest) => run? fuel p rest
      | none => none

def parse? (cs : List Char) : Option Tree := run? (cs.length + 1) .start cs

end Reading

end FieldGate.Pattern
