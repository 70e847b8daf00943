import FieldGate.Pattern.Dialect
import FieldGate.Text

/-! What patterns are spelled with: flags, blanks that do not count, numbers and escapes. -/
namespace FieldGate.Pattern

/-- The flags in force at a place of a pattern. Where `ascii` is set, letters, blanks, digits, words
and the case of letters are those of ASCII, and only ASCII characters can be asked for by sets. -/
structure Flags where
  caseless : Bool := false
  ascii : Bool := false
  multiline : Bool := false
  dotAll : Bool := false
  swapGreed : Bool := false
  crlf : Bool := false
  ignoreBlanks : Bool := false
  deriving DecidableEq, Repr

def Flags.fold (f : Flags) (s : CharSet) : CharSet :=
  if f.caseless then if f.ascii then .foldedAscii s else .folded s else s

def Flags.admits (f : Flags) (s : CharSet) : Bool := !f.ascii || s.isAscii

/-- A set that is another one where only ASCII counts, or what it leaves. -/
def Flags.choose? (f : Flags) (negated : Bool) (s ascii : CharSet) : Option CharSet :=
  let chosen := CharSet.complementIf negated (if f.ascii then ascii else s)
  if f.admits chosen then some chosen else none

def skipIgnored (inComment : Bool) : List Char → List Char
  | [] => []
  | c :: rest =>
    if inComment then skipIgnored (c != '\n') rest
    else if Unicode.isBlank c then skipIgnored false rest
    else if c == '#' then skipIgnored true rest
    else c :: rest

def Flags.skip (f : Flags) (cs : List Char) : List Char :=
  if f.ignoreBlanks then skipIgnored false cs else cs

/-- The first character past the current one, blanks and the sign that opens a comment left out
where blanks do not count. -/
def Flags.peek (f : Flags) (cs : List Char) : Option Char :=
  if f.ignoreBlanks then
    match cs.dropWhile Unicode.isBlank with
    | '#' :: rest => (rest.dropWhile Unicode.isBlank).head?
    | rest => rest.head?
  else cs.head?

def takeSpaced (f : Flags) (p : Char → Bool) : Nat → List Char → List Char × List Char
  | 0, cs => ([], cs)
  | n + 1, c :: rest =>
    if p c then
      let (taken, rest) := takeSpaced f p n (f.skip rest)
      (c :: taken, rest)
    else ([], c :: rest)
  | _ + 1, [] => ([], [])

def count? (f : Flags) (cs : List Char) : Option (Nat × List Char) :=
  let (digits, rest) := takeSpaced f Char.isDigit cs.length (cs.dropWhile Unicode.isBlank)
  let n := Nat.ofDigitChars 10 digits 0
  if digits.isEmpty || Nat.pow 2 32 ≤ n then none
  else some (n, f.skip (rest.dropWhile Unicode.isBlank))

def isHexDigit (c : Char) : Bool :=
  c.isDigit || ('a' ≤ c && c ≤ 'f') || ('A' ≤ c && c ≤ 'F')

def hexValue (c : Char) : Nat :=
  if c.isDigit then c.toNat - '0'.toNat
  else if 'a' ≤ c then c.toNat - 'a'.toNat + 10
  else c.toNat - 'A'.toNat + 10

def hexNumber (cs : List Char) : Nat := cs.foldl (fun n c => 16 * n + hexValue c) 0

def charOf? (n : Nat) : Option Char := if n.isValidChar then some (Char.ofNat n) else none

/-- A character by its code point: so many hexadecimal digits, or any number of them in braces. Two
digits stand for a byte where only ASCII counts, and no other byte is a character. -/
def hexEscape? (f : Flags) (digits : Nat) (cs : List Char) : Option (Char × List Char) :=
  match f.skip cs with
  | '{' :: rest =>
    match takeSpaced f isHexDigit rest.length (f.skip rest) with
    | (ds, '}' :: rest) => if ds.isEmpty then none else (charOf? (hexNumber ds)).map (·, rest)
    | _ => none
  | rest =>
    let (ds, rest) := takeSpaced f isHexDigit digits rest
    if ds.length = digits ∧ ¬ (f.ascii ∧ digits = 2 ∧ 0x80 ≤ hexNumber ds) then
      (charOf? (hexNumber ds)).map (·, rest)
    else none

section Properties

variable [Dialect]

def propertyQuery? (cs : List Char) : Option CharSet :=
  match cs.span (fun c => c != ':' && c != '=') with
  | (_, []) => (Dialect.property? cs).map .table
  | (name, op :: value) =>
    match Text.splitOn '!' cs with
    | [name, '=' :: value] =>
      (Dialect.propertyValue? name value).map fun r => .complement (.table r)
    | _ => if op == ':' || op == '=' then (Dialect.propertyValue? name value).map .table else none

/-- A property escape: one letter, or a query in braces. There is none where only ASCII counts. -/
def propertyEscape? (f : Flags) (negated : Bool) (cs : List Char) :
    Option (CharSet × List Char) :=
  let finish (s : CharSet) := CharSet.complementIf negated (f.fold s)
  if f.ascii then none
  else match f.skip cs with
    | '{' :: rest =>
      match takeSpaced f (· != '}') rest.length (f.skip rest) with
      | (query, '}' :: rest) => (propertyQuery? query).map fun s => (finish s, rest)
      | _ => none
    | '\\' :: _ => none
    | c :: rest => (Dialect.property? [c]).map fun r => (finish (.table r), rest)
    | [] => none

end Properties

/-- The conditions on word boundaries that are named in braces. Braces that begin otherwise are no
part of the escape. -/
def boundaryName? (f : Flags) (cs : List Char) : Option (Look × List Char) :=
  match cs with
  | '{' :: rest =>
    let isName (c : Char) : Bool := c.isAlpha || c == '-'
    match f.skip rest with
    | [] => none
    | c :: more =>
      if !isName c then some (.wordBoundary f.ascii, cs)
      else match takeSpaced f isName (more.length + 1) (c :: more) with
        | (name, '}' :: rest) =>
          match String.ofList name with
          | "start" => some (.wordStart f.ascii, rest)
          | "end" => some (.wordStop f.ascii, rest)
          | "start-half" => some (.wordStartHalf f.ascii, rest)
          | "end-half" => some (.wordStopHalf f.ascii, rest)
          | _ => none
        | _ => none
  | _ => some (.wordBoundary f.ascii, cs)

/-- What an escape stands for. -/
inductive Escaped
  | char (c : Char)
  | set (s : CharSet)
  | look (l : Look)

def isEscapable (c : Char) : Bool :=
  c.toNat ≤ 0x7F && !c.isAlphanum && c != '<' && c != '>'

def escape? [Dialect] (f : Flags) : List Char → Option (Escaped × List Char)
  | [] => none
  | 'x' :: rest => (hexEscape? f 2 rest).map fun (c, rest) => (.char c, rest)
  | 'u' :: rest => (hexEscape? f 4 rest).map fun (c, rest) => (.char c, rest)
  | 'U' :: rest => (hexEscape? f 8 rest).map fun (c, rest) => (.char c, rest)
  | 'p' :: rest => (propertyEscape? f false rest).map fun (s, rest) => (.set s, rest)
  | 'P' :: rest => (propertyEscape? f true rest).map fun (s, rest) => (.set s, rest)
  | 'd' :: rest => (digits? false).map (·, rest)
  | 'D' :: rest => (digits? true).map (·, rest)
  | 's' :: rest => (blanks? false).map (·, rest)
  | 'S' :: rest => (blanks? true).map (·, rest)
  | 'w' :: rest => (words? false).map (·, rest)
  | 'W' :: rest => (words? true).map (·, rest)
  | 'a' :: rest => some (.char '\x07', rest)
  | 'f' :: rest => some (.char '\x0C', rest)
  | 't' :: rest => some (.char '\t', rest)
  | 'n' :: rest => some (.char '\n', rest)
  | 'r' :: rest => some (.char '\r', rest)
  | 'v' :: rest => some (.char '\x0B', rest)
  | 'A' :: rest => some (.look .start, rest)
  | 'z' :: rest => some (.look .stop, rest)
  | 'b' :: rest => (boundaryName? f rest).map fun (l, rest) => (.look l, rest)
  | 'B' :: rest => some (.look (.notWordBoundary f.ascii), rest)
  | '<' :: rest => some (.look (.wordStart f.ascii), rest)
  | '>' :: rest => some (.look (.wordStop f.ascii), rest)
  | c :: rest => if isEscapable c then some (.char c, rest) else none
where
  digits? (negated : Bool) : Option Escaped :=
    (f.choose? negated .digit .asciiDigit).map .set
  blanks? (negated : Bool) : Option Escaped :=
    (f.choose? negated .blank .asciiBlank).map .set
  words? (negated : Bool) : Option Escaped :=
    (f.choose? negated .word .asciiWord).map .set

end FieldGate.Pattern
