import FieldGate.Document.Toml.Scalar

/-! TOML texts: keys, values and tables, of which only the booleans are told apart. -/
namespace FieldGate.Document

namespace Toml

/-- How a table came to be: by a header of its own, on the way to a deeper header, or by a key with
dots. -/
inductive Origin
  | header
  | passed
  | dotted
  deriving DecidableEq, Repr

/-- What stands under a key of a table. -/
inductive Item
  | bool (b : Bool)
  | value
  | table (origin : Origin) (entries : List (String × Item))
  | tables (elements : List (List (String × Item)))

abbrev Entries := List (String × Item)

namespace Entries

def get? (es : Entries) (key : String) : Option Item := es.lookup key

def put : Entries → String → Item → Entries
  | [], key, v => [(key, v)]
  | (k, w) :: rest, key, v => if k == key then (k, v) :: rest else (k, w) :: put rest key v

def onLast (f : Entries → Option Entries) : List Entries → Option (List Entries)
  | [] => none
  | [t] => (f t).map ([·])
  | t :: rest => (onLast f rest).map (t :: ·)

/-- Adds a value under a key with dots. Tables on the way are made if they are missing and may not
have a header of their own, and the one that takes the value was made by such a key. -/
def assign (es : Entries) (dotted : Bool) : List String → String → Item → Option Entries
  | [], key, v => if dotted && (es.get? key).isNone then some (es.put key v) else none
  | p :: path, key, v =>
    match es.get? p with
    | none => (assign [] true path key v).map fun t => es.put p (.table .dotted t)
    | some (.table .header _) => none
    | some (.table origin t) =>
      (assign t (origin == .dotted) path key v).map fun t => es.put p (.table origin t)
    | some (.tables ts) =>
      (onLast (fun t => assign t false path key v) ts).map fun ts => es.put p (.tables ts)
    | some _ => none

/-- Goes down a path of tables, the last one of an array each time, and changes the entries there.
Missing tables are made on the way. -/
def within (f : Entries → Option Entries) : List String → Entries → Option Entries
  | [], es => f es
  | p :: path, es =>
    match es.get? p with
    | none => (within f path []).map fun t => es.put p (.table .passed t)
    | some (.table origin t) => (within f path t).map fun t => es.put p (.table origin t)
    | some (.tables ts) => (onLast (within f path) ts).map fun ts => es.put p (.tables ts)
    | some _ => none

/-- Makes the table of a header. It may have been passed by a deeper header before. -/
def addTable (key : String) (es : Entries) : Option Entries :=
  match es.get? key with
  | none => some (es.put key (.table .header []))
  | some (.table .passed t) => some (es.put key (.table .header t))
  | some _ => none

def addElement (key : String) (es : Entries) : Option Entries :=
  match es.get? key with
  | none => some (es.put key (.tables [[]]))
  | some (.tables ts) => some (es.put key (.tables (ts ++ [[]])))
  | some _ => none

end Entries

/-- Keys with dots and values within values go no deeper than this. -/
def depthLimit : Nat := 80

def isBareKey (c : Char) : Bool := c.isAlphanum || c == '_' || c == '-'

def simpleKey? : List Char → Option (String × List Char)
  | '"' :: rest =>
    (basicString? (rest.length + 1) rest).map fun (cs, rest) => (String.ofList cs, rest)
  | '\'' :: rest => (literalString? rest).map fun (cs, rest) => (String.ofList cs, rest)
  | cs =>
    let bare := cs.takeWhile isBareKey
    if bare.isEmpty then none else some (String.ofList bare, cs.drop bare.length)

def keyParts? : Nat → List Char → Option (List String × List Char)
  | 0, _ => none
  | fuel + 1, cs =>
    match simpleKey? (skipBlanks cs) with
    | none => none
    | some (name, rest) =>
      match skipBlanks rest with
      | '.' :: rest => (keyParts? fuel rest).map fun (names, rest) => (name :: names, rest)
      | rest => some ([name], rest)

def key? (cs : List Char) : Option (List String × String × List Char) :=
  match keyParts? (cs.length + 1) cs with
  | some (names, rest) =>
    if depthLimit ≤ names.length then none
    else names.getLast?.map fun last => (names.dropLast, last, rest)
  | none => none

mutual

def value? : Nat → Nat → List Char → Option (Item × List Char)
  | 0, _, _ => none
  | fuel + 1, depth, cs =>
    match cs with
    | 't' :: 'r' :: 'u' :: 'e' :: rest => some (.bool true, rest)
    | 'f' :: 'a' :: 'l' :: 's' :: 'e' :: rest => some (.bool false, rest)
    | '[' :: rest =>
      if depthLimit ≤ depth + 1 then none
      else (items? fuel (depth + 1) rest).map (.value, ·)
    | '\x7b' :: rest =>
      if depthLimit ≤ depth + 1 then none
      else match skipBlanks rest with
        | '\x7d' :: rest => some (.value, rest)
        | rest => (members? fuel (depth + 1) [] rest).map (.value, ·)
    | '"' :: _ | '\'' :: _ => (string? cs).map (.value, ·)
    | _ => (figure? cs).map (.value, ·)

/-- Reads the items of an array up to its closing bracket. A comma may stand after the last. -/
def items? : Nat → Nat → List Char → Option (List Char)
  | 0, _, _ => none
  | fuel + 1, depth, cs =>
    match skipLines cs.length cs with
    | ']' :: rest => some rest
    | cs =>
      match value? fuel depth cs with
      | none => none
      | some (_, rest) =>
        match skipLines rest.length rest with
        | ',' :: rest => items? fuel depth rest
        | ']' :: rest => some rest
        | _ => none

def members? : Nat → Nat → Entries → List Char → Option (List Char)
  | 0, _, _, _ => none
  | fuel + 1, depth, es, cs =>
    match key? cs with
    | some (path, key, '=' :: rest) =>
      match value? fuel depth (skipBlanks rest) with
      | none => none
      | some (v, rest) =>
        match es.assign (path.isEmpty) path key v with
        | none => none
        | some es =>
          match skipBlanks rest with
          | ',' :: rest => members? fuel depth es rest
          | '\x7d' :: rest => some rest
          | _ => none
    | _ => none

end

/-- Reads the lines of a document into its tables. Values go to the table of the last header. -/
def lines? : Nat → List String → Entries → List Char → Option Entries
  | 0, _, _, _ => none
  | fuel + 1, current, es, cs =>
    match skipLines cs.length cs with
    | [] => some es
    | '[' :: '[' :: rest =>
      match key? rest with
      | some (path, key, ']' :: ']' :: rest) =>
        match lineEnd? rest, es.within (Entries.addElement key) path with
        | some rest, some es => lines? fuel (path ++ [key]) es rest
        | _, _ => none
      | _ => none
    | '[' :: rest =>
      match key? rest with
      | some (path, key, ']' :: rest) =>
        match lineEnd? rest, es.within (Entries.addTable key) path with
        | some rest, some es => lines? fuel (path ++ [key]) es rest
        | _, _ => none
      | _ => none
    | cs =>
      match key? cs with
      | some (path, key, '=' :: rest) =>
        match value? (2 * rest.length + 2) 0 (skipBlanks rest) with
        | some (v, rest) =>
          match lineEnd? rest,
              es.within (fun t => t.assign path.isEmpty path key v) current with
          | some rest, some es => lines? fuel current es rest
          | _, _ => none
        | none => none
      | _ => none

/-- Reads a whole text, with an optional byte order mark before it. -/
def parse? (cs : List Char) : Option Entries :=
  let cs := match cs with
    | '\uFEFF' :: rest => rest
    | cs => cs
  lines? (cs.length + 1) [] [] cs

end Toml

end FieldGate.Document
