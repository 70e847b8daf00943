import FieldGate.Declaration
import FieldGate.Document.Json

/-! Declared requirements written as JSON. A record is an object, or an array of its members in
their order; unknown members do not count, and a member may not be given twice. -/
namespace FieldGate

open Document (Json)

namespace Declaration

/-- A name, or an object with the name as its only member and nothing in it. -/
def variant? : Json → Option String
  | .string (some s) => some s
  | .object [(some s, .null)] => some s
  | _ => none

def readAction? (v : Json) : Option Action :=
  match variant? v with
  | some "enable" => some .enable
  | some "display" => some .display
  | _ => none

def readQuantifier? (v : Json) : Option Quantifier :=
  match variant? v with
  | some "all" => some .all
  | some "any" => some .any
  | some "none" => some .none
  | some "one" => some .one
  | _ => none

def readText? : Json → Option String
  | .string s => s
  | _ => none

def readTexts? : Json → Option (List String)
  | .array items => items.mapM readText?
  | _ => none

/-- The member of a name. Every name must have characters, and this one occurs once at most. -/
def member? (members : List (Option String × Json)) (name : String) : Option (Option Json) :=
  if members.any fun m => m.1.isNone then none
  else match members.filter fun m => m.1 == some name with
    | [] => some none
    | [m] => some (some m.2)
    | _ => none

/-- Reads a member of a name, or takes the default for a missing one. -/
def readMember? {α : Type} (read : Json → Option α) (default : Option α)
    (members : List (Option String × Json)) (name : String) : Option α :=
  match member? members name with
  | some (some v) => read v
  | some none => default
  | none => none

def readPlace? {α : Type} (read : Json → Option α) (default : Option α)
    (items : List Json) (place : Nat) : Option α :=
  match items[place]? with
  | some v => read v
  | none => default

def readDependency? : Json → Option Dependency
  | .object members => do
    let field := readMember? readTexts? (some []) members
    return {
      targets := ← field "targets"
      conditions := ← field "conditions"
      patterns := ← field "regex_conditions"
      arguments := ← field "arguments"
      staticArguments := ← field "static_arguments" }
  | .array items => do
    let field := readPlace? readTexts? (some []) items
    if 5 < items.length then none
    else return {
      targets := ← field 0
      conditions := ← field 1
      patterns := ← field 2
      arguments := ← field 3
      staticArguments := ← field 4 }
  | _ => none

def readDependencies? : Json → Option (List Dependency)
  | .array items => items.mapM readDependency?
  | _ => none

def ofDocument? : Json → Option Declaration
  | .object members => do
    return {
      action := ← readMember? readAction? none members "action"
      quantifier := ← readMember? readQuantifier? (some .all) members "quantifier"
      members := ← readMember? readDependencies? none members "members" }
  | .array items => do
    if 3 < items.length then none
    else return {
      action := ← readPlace? readAction? none items 0
      quantifier := ← readPlace? readQuantifier? (some .all) items 1
      members := ← readPlace? readDependencies? none items 2 }
  | _ => none

def ofJson? (text : String) : Option Declaration := (Json.parse? text.toList).bind ofDocument?

end Declaration

end FieldGate
