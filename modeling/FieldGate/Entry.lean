import FieldGate.Manager

/-! Entries with their live values and the gates put on them. -/
namespace FieldGate

variable [PatternEngine]

/-- An entry: what it holds, the gates that decide whether it can be edited and whether it is shown,
and how often one was put on it. -/
structure Entry where
  type : ValueType
  value : Value
  enable : Option Gate := none
  display : Option Gate := none
  installs : Nat := 0

namespace Entry

def gate? (e : Entry) : Action → Option Gate
  | .enable => e.enable
  | .display => e.display

/-- Puts a gate on the entry in place of an earlier one, or takes the earlier one off. -/
def install (e : Entry) (action : Action) (g : Option Gate) : Entry :=
  match action with
  | .enable => { e with enable := g, installs := e.installs + 1 }
  | .display => { e with display := g, installs := e.installs + 1 }

end Entry

/-- All entries by identity. -/
structure Entries where
  items : List Entry := []

namespace Entries

def get? (es : Entries) (id : EntryId) : Option Entry := es.items[id.index]?

def typeOf (es : Entries) (id : EntryId) : ValueType :=
  match es.get? id with
  | some e => e.type
  | none => .bool

def modify (es : Entries) (id : EntryId) (f : Entry → Entry) : Entries :=
  ⟨es.items.modify id.index f⟩

def install (es : Entries) (i : Install) : Entries :=
  es.modify i.entry fun e => e.install i.action (some i.gate)

def installAll (es : Entries) (is : List Install) : Entries := is.foldl install es

end Entries

end FieldGate
