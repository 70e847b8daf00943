import FieldGate.Number.Decimal

/-! Strings, numbers, dates and times of TOML texts. Each reader gives what follows; only strings
that can be keys are also given as characters. -/
namespace FieldGate.Document.Toml

def isBlank (c : Char) : Bool := c == ' ' || c == '\t'

def skipBlanks (cs : List Char) : List Char := cs.dropWhile isBlank

/-- Characters that may stand in a line: a tab, and whatever is no control character. -/
def isPlain (c : Char) : Bool := c == '\t' || (0x20 ≤ c.toNat && c.toNat != 0x7F)

def newline? : List Char → Option (List Char)
  | '\n' :: rest => some rest
  | '\r' :: '\n' :: rest => some rest
  | _ => none

def skipComment (cs : List Char) : List Char :=
  match skipBlanks cs with
  | '#' :: rest => rest.dropWhile isPlain
  | rest => rest

def lineEnd? (cs : List Char) : Option (List Char) :=
  match skipComment cs with
  | [] => some []
  | rest => newline? rest

def skipLines : Nat → List Char → List Char
  | 0, cs => cs
  | fuel + 1, cs =>
    match newline? (skipComment cs) with
    | some rest => skipLines fuel rest
    | none => skipComment cs

def isHex (c : Char) : Bool := c.isDigit || ('a' ≤ c && c ≤ 'f') || ('A' ≤ c && c ≤ 'F')

def hexValue (c : Char) : Nat :=
  if c.isDigit then c.toNat - '0'.toNat
  else if 'a' ≤ c then c.toNat - 'a'.toNat + 10
  else c.toNat - 'A'.toNat + 10

def codePoint? (digits : Nat) (cs : List Char) : Option (Char × List Char) :=
  let ds := cs.take digits
  let n := ds.foldl (fun n c => 16 * n + hexValue c) 0
  if ds.length = digits && ds.all isHex && n.isValidChar then
    some (Char.ofNat n, cs.drop digits)
  else none

def escape? : List Char → Option (Char × List Char)
  | 'b' :: rest => some ('\x08', rest)
  | 't' :: rest => some ('\t', rest)
  | 'n' :: rest => some ('\n', rest)
  | 'f' :: rest => some ('\x0C', rest)
  | 'r' :: rest => some ('\r', rest)
  | '"' :: rest => some ('"', rest)
  | '\\' :: rest => some ('\\', rest)
  | 'u' :: rest => codePoint? 4 rest
  | 'U' :: rest => codePoint? 8 rest
  | _ => none

def basicString? : Nat → List Char → Option (List Char × List Char)
  | 0, _ => none
  | _ + 1, [] => none
  | _ + 1, '"' :: rest => some ([], rest)
  | fuel + 1, '\\' :: rest =>
    match escape? rest with
    | some (c, rest) => (basicString? fuel rest).map fun (cs, rest) => (c :: cs, rest)
    | none => none
  | fuel + 1, c :: rest =>
    if isPlain c then (basicString? fuel rest).map fun (cs, rest) => (c :: cs, rest) else none

def literalString? (cs : List Char) : Option (List Char × List Char) :=
  let body := cs.takeWhile fun c => isPlain c && c != '\''
  match cs.drop body.length with
  | '\'' :: rest => some (body, rest)
  | _ => none

/-- A string over several lines, after the three opening quotes. Up to two quotes may stand before
the three that close it. -/
def longString? (quote : Char) (escapes : Bool) : Nat → List Char → Option (List Char)
  | 0, _ => none
  | _ + 1, [] => none
  | fuel + 1, c :: rest =>
    if c == quote then
      let run := 1 + (rest.takeWhile (· == quote)).length
      if run < 3 then longString? quote escapes fuel (rest.drop (run - 1))
      else if run ≤ 5 then some (rest.drop (run - 1))
      else none
    else if c == '\\' && escapes then
      match newline? (skipBlanks rest) with
      | some rest => longString? quote escapes fuel rest
      | none =>
        match escape? rest with
        | some (_, rest) => longString? quote escapes fuel rest
        | none => none
    else if isPlain c then longString? quote escapes fuel rest
    else match newline? (c :: rest) with
      | some rest => longString? quote escapes fuel rest
      | none => none

def string? : List Char → Option (List Char)
  | '"' :: '"' :: '"' :: rest => longString? '"' true (rest.length + 1) rest
  | '\'' :: '\'' :: '\'' :: rest => longString? '\'' false (rest.length + 1) rest
  | '"' :: rest => (basicString? (rest.length + 1) rest).map (·.2)
  | '\'' :: rest => (literalString? rest).map (·.2)
  | _ => none

/-- Digits of one kind, with single underscores between them. -/
def digitRun? (isDigit : Char → Bool) (cs : List Char) : Option (List Char × List Char) :=
  let run := cs.takeWhile fun c => isDigit c || c == '_'
  let ds := run.filter (· != '_')
  let neighbours := run.zip (run.drop 1)
  if run.isEmpty || run.head? == some '_' || run.getLast? == some '_' ||
      neighbours.any (fun (a, b) => a == '_' && b == '_') then none
  else some (ds, cs.drop run.length)

def fitsInteger (negative : Bool) (n : Nat) : Bool :=
  if negative then n ≤ Nat.pow 2 63 else n < Nat.pow 2 63

def basedInteger? (base : Nat) (isDigit : Char → Bool) (cs : List Char) : Option (List Char) :=
  match digitRun? isDigit cs with
  | some (ds, rest) =>
    if fitsInteger false (ds.foldl (fun n c => base * n + hexValue c) 0) then some rest else none
  | none => none

/-- The part of a float after its whole digits, without its underscores. -/
def floatTail? (cs : List Char) : Option (List Char × List Char) := do
  let (fraction, cs) ← match cs with
    | '.' :: rest => (digitRun? Char.isDigit rest).map fun (ds, rest) => ('.' :: ds, rest)
    | _ => some ([], cs)
  match cs with
  | c :: rest =>
    if c == 'e' || c == 'E' then
      let (sign, rest) := match rest with
        | '-' :: rest => (['-'], rest)
        | '+' :: rest => ([], rest)
        | rest => ([], rest)
      let (ds, rest) ← digitRun? Char.isDigit rest
      some (fraction ++ 'e' :: sign ++ ds, rest)
    else some (fraction, cs)
  | [] => some (fraction, [])

/-- A decimal integer or float. The whole part has no needless zero, and a float may be too large
for its format only below zero. -/
def decimal? (negative : Bool) (cs : List Char) : Option (List Char) := do
  let (whole, rest) ← digitRun? Char.isDigit cs
  if 1 < whole.length && whole.head? == some '0' then none
  let (tail, rest) ← floatTail? rest
  if tail.isEmpty then
    if fitsInteger negative (Decimal.natOfDigits whole) then some rest else none
  else match readFloat .double (whole ++ tail) with
    | .ok (.finite ..) => some rest
    | .ok (.infinite _) => if negative then some rest else none
    | _ => none

/-- A number with an optional sign; only unsigned integers may have a base. -/
def number? (cs : List Char) : Option (List Char) :=
  let signed (negative : Bool) (cs : List Char) : Option (List Char) :=
    match cs with
    | 'i' :: 'n' :: 'f' :: rest => some rest
    | 'n' :: 'a' :: 'n' :: rest => some rest
    | cs => decimal? negative cs
  match cs with
  | '0' :: 'x' :: rest => basedInteger? 16 isHex rest
  | '0' :: 'o' :: rest => basedInteger? 8 (fun c => c.isDigit && c ≤ '7') rest
  | '0' :: 'b' :: rest => basedInteger? 2 (fun c => c == '0' || c == '1') rest
  | '-' :: rest => signed true rest
  | '+' :: rest => signed false rest
  | rest => signed false rest

def field? (digits lo hi : Nat) (cs : List Char) : Option (Nat × List Char) :=
  let ds := cs.take digits
  let n := Decimal.natOfDigits ds
  if ds.length = digits && ds.all Char.isDigit && lo ≤ n && n ≤ hi then
    some (n, cs.drop digits)
  else none

def sign? (c : Char) : List Char → Option (List Char)
  | d :: rest => if c = d then some rest else none
  | [] => none

def isLeapYear (y : Nat) : Bool := y % 4 == 0 && (y % 100 != 0 || y % 400 == 0)

def daysInMonth (year month : Nat) : Nat :=
  if month == 2 then (if isLeapYear year then 29 else 28)
  else if month == 4 || month == 6 || month == 9 || month == 11 then 30
  else 31

def date? (cs : List Char) : Option (List Char) := do
  let (year, cs) ← field? 4 0 9999 cs
  let (month, cs) ← field? 2 1 12 (← sign? '-' cs)
  let (_, cs) ← field? 2 1 (daysInMonth year month) (← sign? '-' cs)
  return cs

def time? (cs : List Char) : Option (List Char) := do
  let (_, cs) ← field? 2 0 23 cs
  let (_, cs) ← field? 2 0 59 (← sign? ':' cs)
  let (_, cs) ← field? 2 0 60 (← sign? ':' cs)
  match cs with
  | '.' :: c :: rest =>
    if c.isDigit then return rest.dropWhile Char.isDigit else return cs
  | _ => return cs

def offset? (cs : List Char) : Option (List Char) :=
  let distance (cs : List Char) : Option (List Char) := do
    let (_, cs) ← field? 2 0 23 cs
    let (_, cs) ← field? 2 0 59 (← sign? ':' cs)
    return cs
  match cs with
  | 'Z' :: rest | 'z' :: rest => some rest
  | '+' :: rest | '-' :: rest => distance rest
  | _ => some cs

def isSign (c : Char) (place : Nat) (cs : List Char) : Bool := cs[place]? == some c

def dateTime? (cs : List Char) : Option (List Char) := do
  if isSign ':' 2 cs then return ← time? cs
  let rest ← date? cs
  match rest with
  | c :: after =>
    if c == 'T' || c == 't' || c == ' ' then
      if isSign ':' 2 after && (after.take 2).all Char.isDigit then offset? (← time? after)
      else return rest
    else return rest
  | [] => return rest

def figure? (cs : List Char) : Option (List Char) :=
  let digits := (cs.takeWhile Char.isDigit).length
  if (digits == 4 && isSign '-' 4 cs) || (digits == 2 && isSign ':' 2 cs) then dateTime? cs
  else number? cs

end FieldGate.Document.Toml
