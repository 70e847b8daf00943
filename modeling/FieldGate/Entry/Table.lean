import FieldGate.Reference

/-! The entries made for each field, and looking up the one that a reference means. -/
namespace FieldGate

/-- The identity of an entry. -/
structure EntryId where
  index : Nat
  deriving DecidableEq, Repr

/-- Why a reference leads to no entry. -/
inductive LookupError
  | unregistered (reference : String)
  | noEntries (reference : String)
  | indexOutOfRange (reference : String) (index max : Int)
  deriving DecidableEq, Repr

def LookupError.message : LookupError → String
  | unregistered reference => "No entries registered for \"" ++ reference ++ "\""
  | noEntries reference =>
    "Reference \"" ++ reference ++ "\" points at a field registered with no entries"
  | indexOutOfRange reference index max =>
    "Index " ++ String.ofList (digitsOfInt index) ++ " in reference \"" ++ reference ++
      "\" is out of bounds (expected between 0 and " ++ String.ofList (digitsOfInt max) ++ ")"

/-- The registered fields with their entries. No field is in it twice. -/
structure EntryTable where
  fields : List (FieldId × List EntryId) := []

abbrev Snapshot := List (String × Nat)

namespace EntryTable

def entries? (t : EntryTable) (f : FieldId) : Option (List EntryId) := t.fields.lookup f

def contains (t : EntryTable) (f : FieldId) : Bool := (t.entries? f).isSome

def entries (t : EntryTable) (f : FieldId) : List EntryId := (t.entries? f).getD []

def erase (t : EntryTable) (f : FieldId) : EntryTable :=
  ⟨t.fields.filter fun p => p.1 != f⟩

def register (t : EntryTable) (f : FieldId) : Option (List EntryId) → EntryTable
  | some es => ⟨(f, es) :: (t.erase f).fields⟩
  | none => t.erase f

/-- The item at a place of a list; a negative place counts from the end. -/
def place? {α : Type} (items : List α) (index : Int) : Option α :=
  let i := if index < 0 then items.length + index else index
  if i < 0 then none else items[i.toNat]?

def entryAt? (t : EntryTable) (f : FieldId) (index : Int) : Option EntryId :=
  (t.entries? f).bind fun es => place? es index

/-- The entry at a place of a field, or what is wrong with the reference that leads there. -/
def locate (t : EntryTable) (f : FieldId) (index : Int) (reference : String) :
    Except LookupError EntryId :=
  match t.entries? f with
  | none => .error (.unregistered reference)
  | some [] => .error (.noEntries reference)
  | some es =>
    match place? es index with
    | some e => .ok e
    | none => .error (.indexOutOfRange reference index (es.length - 1))

def entry (t : EntryTable) (r : FieldReference) : Except LookupError EntryId :=
  t.locate r.target.field r.target.index.toInt r.text

def size (t : EntryTable) : Nat := t.fields.length

def holds (t : EntryTable) (e : EntryId) : Bool := t.fields.any fun p => p.2.contains e

def fieldBefore (f g : FieldId) : Bool :=
  f.owner.index < g.owner.index || (f.owner.index == g.owner.index && f.slot ≤ g.slot)

def sortedFields (t : EntryTable) : List FieldId := (t.fields.map (·.1)).mergeSort fieldBefore

/-- Puts a count under a name, in the order of the names. -/
def insertCount (name : String) (count : Nat) : Snapshot → Snapshot
  | [] => [(name, count)]
  | (n, c) :: rest =>
    if name < n then (name, count) :: (n, c) :: rest
    else if name = n then (name, count) :: rest
    else (n, c) :: insertCount name count rest

def snapshot (t : EntryTable) (s : Schema) : Snapshot :=
  t.fields.foldr (fun p counts => insertCount (s.fieldKey p.1) p.2.length counts) []

end EntryTable

end FieldGate
