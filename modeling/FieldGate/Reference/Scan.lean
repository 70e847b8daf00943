import FieldGate.Schema.Builder

/-! Splitting a reference into its parts, before any schema is consulted: a path of names, a member,
a list of parameter types and an index. -/
namespace FieldGate

/-- What is wrong with a reference, at an offset in bytes if it is about a place. -/
inductive ReferenceDefect
  | invalidCharacter (c : Char) (offset : Nat)
  | emptyIdentifier (offset : Nat)
  | unexpectedEnd (expected : String)
  | invalidIndex (text : String)
  | indexOnMethod
  | expectedField (method : String)
  | unknownType (path : String)
  | noSuchMember (owner member : String) (fields methods : List String)
  | ambiguousMember (owner member : String) (candidates : List String)
  deriving DecidableEq, Repr

namespace ReferenceDefect

def message : ReferenceDefect → String
  | invalidCharacter c offset =>
    "invalid character '" ++ String.singleton c ++ "' at offset " ++ toString offset
  | emptyIdentifier offset => "empty identifier at offset " ++ toString offset
  | unexpectedEnd expected => "unexpected end of input, expected " ++ expected
  | invalidIndex text => "invalid index '" ++ text ++ "'"
  | indexOnMethod => "an index is only valid on field references"
  | expectedField method => method ++ " is a method, expected a field"
  | unknownType path => "no type named '" ++ path ++ "'"
  | noSuchMember owner member fields methods =>
    owner ++ " has no member '" ++ member ++ "' (fields: [" ++ Text.join ", " fields ++
      "], methods: [" ++ Text.join ", " methods ++ "])"
  | ambiguousMember owner member candidates =>
    "'" ++ member ++ "' on " ++ owner ++ " is ambiguous between " ++ Text.join " and " candidates

def isUnresolved : ReferenceDefect → Bool
  | unknownType _ => true
  | noSuchMember .. => true
  | _ => false

end ReferenceDefect

/-- The parts of a reference. An empty path means the type that the reference is relative to. -/
structure RawReference where
  path : List String
  member : String
  descriptor : Option (List String) := none
  index : Option Nat := none
  deriving DecidableEq, Repr

namespace RawReference

def joinedPath (r : RawReference) : String := Text.join "." r.path

end RawReference

/-- A place in a text: its offset in bytes and what follows. -/
structure Cursor where
  offset : Nat
  rest : List Char
  deriving DecidableEq, Repr

namespace Cursor

def past (c : Cursor) (text : List Char) : Cursor :=
  ⟨c.offset + Text.byteSize text, c.rest.drop text.length⟩

abbrev Scanned (α : Type) := Except ReferenceDefect (α × Cursor)

def isPunctuation (c : Char) : Bool := c == '.' || c == '#' || c == '(' || c == '['

def identifier (c : Cursor) : Scanned String :=
  match c.rest with
  | [] => .error (.unexpectedEnd "identifier")
  | a :: more =>
    if isIdentifierStart a then
      let name := a :: more.takeWhile isIdentifierPart
      .ok (String.ofList name, c.past name)
    else if isPunctuation a then .error (.emptyIdentifier c.offset)
    else .error (.invalidCharacter a c.offset)

/-- Reads what follows the first name: more names after dots, or a member after a number sign. -/
def names : Nat → List String → Cursor → Scanned (List String × Option String)
  | 0, path, c => .ok ((path, none), c)
  | fuel + 1, path, c =>
    match c.rest with
    | '.' :: _ =>
      match identifier (c.past ['.']) with
      | .ok (name, c) => names fuel (path ++ [name]) c
      | .error e => .error e
    | '#' :: _ => (identifier (c.past ['#'])).map fun (name, c) => ((path, some name), c)
    | _ => .ok ((path, none), c)

/-- Reads the path and the member. Without a number sign the last name is the member. -/
def head (c : Cursor) : Scanned (List String × String) :=
  match c.rest with
  | '#' :: _ => (identifier (c.past ['#'])).map fun (name, c) => (([], name), c)
  | _ =>
    match identifier c with
    | .error e => .error e
    | .ok (first, c) =>
      match names c.rest.length [first] c with
      | .error e => .error e
      | .ok ((path, some member), c) => .ok ((path, member), c)
      | .ok ((path, none), c) => .ok ((path.dropLast, path.getLast?.getD first), c)

/-- Parameter types without their blanks. One that is blank altogether has its offset reported. -/
def parameters : Nat → List (List Char) → Except ReferenceDefect (List String)
  | _, [] => .ok []
  | offset, part :: parts =>
    let name := Text.withoutBlanks part
    if name.isEmpty then .error (.emptyIdentifier offset)
    else (parameters (offset + Text.byteSize part + 1) parts).map (String.ofList name :: ·)

def isBracket (c : Char) : Bool := c == '(' || c == '[' || c == ']' || c == '#'

def descriptor (c : Cursor) : Scanned (List String) :=
  let c := c.past ['(']
  let body := c.rest.takeWhile fun a => a != ')' && !isBracket a
  let after := c.past body
  match after.rest with
  | [] => .error (.unexpectedEnd "')'")
  | ')' :: _ =>
    if body.all Unicode.isBlank then .ok ([], after.past [')'])
    else (parameters c.offset (Text.splitOn ',' body)).map (·, after.past [')'])
  | a :: _ => .error (.invalidCharacter a after.offset)

def index (c : Cursor) : Scanned Nat :=
  let c := c.past ['[']
  let digits := c.rest.takeWhile Char.isDigit
  let after := c.past digits
  match after.rest with
  | [] => .error (.unexpectedEnd "']'")
  | ']' :: _ =>
    match readInteger .w32 digits with
    | .ok n => .ok (n.toNat, after.past [']'])
    | .error _ => .error (.invalidIndex (String.ofList digits))
  | a :: _ => .error (.invalidCharacter a after.offset)

/-- Reads a part that begins with a sign, if it is there. -/
def optional {α : Type} (sign : Char) (read : Cursor → Scanned α) (c : Cursor) :
    Scanned (Option α) :=
  if c.rest.head? = some sign then (read c).map fun (a, c) => (some a, c) else .ok (none, c)

end Cursor

namespace RawReference

def scanFrom (c : Cursor) : Except ReferenceDefect RawReference := do
  if c.rest.isEmpty then throw (.emptyIdentifier c.offset)
  let ((path, member), c) ← c.head
  let (descriptor, c) ← c.optional '(' Cursor.descriptor
  let (index, c) ← c.optional '[' Cursor.index
  match c.rest with
  | [] => return { path, member, descriptor, index }
  | a :: _ => throw (.invalidCharacter a c.offset)

/-- Reads a reference. Blanks around it are no part of it when they are trimmed; offsets count from
the start of the text in any case. -/
def scan (trim : Bool) (text : List Char) : Except ReferenceDefect RawReference :=
  if trim then
    scanFrom ⟨Text.byteSize (text.takeWhile Unicode.isBlank), Text.trim text⟩
  else scanFrom ⟨0, text⟩

end RawReference

end FieldGate
