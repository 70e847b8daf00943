import FieldGate.Definition
import FieldGate.Document.Layout

/-! Registering the entries of fields, and building the gates of all that are governed. -/
namespace FieldGate

open Document (Layout)

variable [PatternEngine]

/-- Registration is open until the first build. -/
inductive ManagerState
  | registering
  | resolved
  deriving DecidableEq, Repr

def ManagerState.name : ManagerState → String
  | registering => "registering"
  | resolved => "resolved"

/-- An entry with the fields whose declarations govern it. -/
structure Governed where
  entry : EntryId
  sources : List FieldId := []
  deriving DecidableEq, Repr

/-- The entries that a declaration governs in the order in which they came to be governed, and the
place of each among them. -/
structure Governance where
  records : List Governed := []
  index : List (EntryId × Nat) := []
  deriving DecidableEq, Repr

/-- What has been registered: the entries of each field, and what governs them. -/
structure Manager where
  schema : Schema
  config : Config := {}
  entries : EntryTable := {}
  governance : Governance := {}
  state : ManagerState := .registering

structure Summary where
  state : ManagerState
  entries : Snapshot
  governedEntries : Nat
  sourceFields : List String
  deriving DecidableEq

/-- What a build did to one entry. -/
structure InstallRecord where
  sources : List String
  enable : Bool
  display : Bool
  deriving DecidableEq, Repr

/-- What a build did. -/
structure Report where
  handlers : List String
  entries : Snapshot
  installs : List InstallRecord
  deriving DecidableEq

/-- A gate to be put on an entry. -/
structure Install where
  entry : EntryId
  action : Action
  gate : Gate

namespace Summary

def layout (s : Summary) : Layout :=
  .object [
    ("state", .text s.state.name),
    ("entries", .object [("fields", .object (s.entries.map fun p => (p.1, .nat p.2)))]),
    ("governed_entries", .nat s.governedEntries),
    ("source_fields", .array (s.sourceFields.map .text))]

def toJson (s : Summary) : String := s.layout.write 0

end Summary

namespace Report

def installed (r : Report) : Nat :=
  r.installs.foldr (fun i n => i.enable.toNat + i.display.toNat + n) 0

def layout (r : Report) : Layout :=
  .object [
    ("handlers", .array (r.handlers.map .text)),
    ("entries", .object [("fields", .object (r.entries.map fun p => (p.1, .nat p.2)))]),
    ("installs", .array (r.installs.map fun i =>
      .object [
        ("sources", .array (i.sources.map .text)),
        ("enable", .bool i.enable),
        ("display", .bool i.display)]))]

def toJson (r : Report) : String := r.layout.write 0

end Report

namespace Governed

def addSource (f : FieldId) (g : Governed) : Governed :=
  if g.sources.contains f then g else { g with sources := g.sources ++ [f] }

def removeSource (f : FieldId) (g : Governed) : Governed :=
  { g with sources := g.sources.filter (· != f) }

end Governed

namespace Governance

def place? (g : Governance) (e : EntryId) : Option Nat := g.index.lookup e

def modifyAt (g : Governance) (i : Nat) (change : Governed → Governed) : Governance :=
  { g with records := g.records.modify i change }

def releaseOne (f : FieldId) (g : Governance) (e : EntryId) : Governance :=
  match g.place? e with
  | some i => g.modifyAt i (Governed.removeSource f)
  | none => g

def release (f : FieldId) (g : Governance) (es : List EntryId) : Governance :=
  es.foldl (releaseOne f) g

def declareOne (f : FieldId) (g : Governance) (e : EntryId) : Governance :=
  match g.place? e with
  | some i => g.modifyAt i (Governed.addSource f)
  | none =>
    { records := g.records ++ [{ entry := e, sources := [f] }]
      index := (e, g.records.length) :: g.index }

def declare (f : FieldId) (g : Governance) (es : List EntryId) : Governance :=
  es.foldl (declareOne f) g

end Governance

namespace Manager

def declares (m : Manager) (f : FieldId) : Bool :=
  match m.schema.field? f with
  | some d => !d.declarations.isEmpty
  | none => false

def guarded (m : Manager) (f : FieldId) (next : Manager) : Except BuildError Manager :=
  match m.state with
  | .registering => .ok next
  | .resolved => .error (.registrationClosed (m.schema.fieldKey f))

def release (m : Manager) (f : FieldId) : Manager :=
  { m with governance := m.governance.release f (m.entries.entries f) }

/-- A field that declares requirements comes to govern entries. -/
def declare (m : Manager) (f : FieldId) (es : List EntryId) : Manager :=
  if m.declares f then { m with governance := m.governance.declare f es } else m

/-- Registers the entries of a field in place of those registered before. -/
def register (m : Manager) (f : FieldId) (es : List EntryId) : Except BuildError Manager :=
  m.guarded f
    (let m := (m.release f).declare f es
     { m with entries := m.entries.register f (some es) })

/-- Lets a field govern more entries, which are not reached through the field. -/
def registerDeclared (m : Manager) (f : FieldId) (es : List EntryId) :
    Except BuildError Manager :=
  m.guarded f (m.declare f es)

/-- Removes the entries of a field and no longer lets it govern them. -/
def deregister (m : Manager) (f : FieldId) : Except BuildError Manager :=
  m.guarded f
    (let m := m.release f
     { m with entries := m.entries.register f none })

def sortedNames (names : List String) : List String :=
  (names.mergeSort fun a b => a ≤ b).eraseReps

def governed (m : Manager) : List Governed := m.governance.records

/-- The entries that some field governs. -/
def governing (m : Manager) : List Governed := m.governed.filter fun g => !g.sources.isEmpty

def summary (m : Manager) : Summary :=
  { state := m.state
    entries := m.entries.snapshot m.schema
    governedEntries := m.governing.length
    sourceFields := sortedNames ((m.governed.flatMap Governed.sources).map m.schema.fieldKey) }

/-- Whether the manager holds on to an entry. Once governed, an entry stays known. -/
def holds (m : Manager) (e : EntryId) : Bool :=
  m.entries.holds e || m.governed.any fun g => g.entry == e

abbrev FieldGates := List (Action × Gate)

def resolveField (c : Definition.Context) (f : FieldId) : Noted BuildError FieldGates :=
  match c.schema.field? f with
  | none => .ok []
  | some d =>
    (Noted.ofExcept (Definition.parseAll c.schema c.config.trimReferences d)).andThen fun ds =>
      Noted.each (fun d => (Definition.gate c d).andThen fun g => .ok (d.action, g)) ds

abbrev Resolved := List (FieldId × FieldGates)

/-- Resolves fields in turn, none of them twice. -/
def resolveEach (c : Definition.Context) (known : Resolved) :
    List FieldId → Noted BuildError Resolved
  | [] => .ok known
  | f :: rest =>
    if (known.lookup f).isSome then resolveEach c known rest
    else (resolveField c f).andThen fun gs => resolveEach c (known ++ [(f, gs)]) rest

def gatesFor (known : Resolved) (action : Action) (sources : List FieldId) : List Gate :=
  sources.flatMap fun f =>
    ((known.lookup f).getD []).filterMap fun p => if p.1 = action then some p.2 else none

def conjoin (gs : List Gate) : Option Gate := if gs.isEmpty then none else some (.all gs)

def entryGate (known : Resolved) (g : Governed) (action : Action) : Option Gate :=
  conjoin (gatesFor known action g.sources)

def installsOn (known : Resolved) (g : Governed) : List Install :=
  [Action.enable, Action.display].filterMap fun a =>
    (entryGate known g a).map fun gate => { entry := g.entry, action := a, gate }

def recordOf (m : Manager) (known : Resolved) (g : Governed) : InstallRecord :=
  { sources := g.sources.map m.schema.fieldKey
    enable := (entryGate known g .enable).isSome
    display := (entryGate known g .display).isSome }

/-- Resolves all that is governed, without regard to the state. -/
def resolve (m : Manager) (typeOf : EntryId → ValueType) :
    Noted BuildError (Report × List Install) :=
  let base : HandlerTable.Context :=
    { schema := m.schema, config := m.config, entries := m.entries, typeOf }
  ((HandlerTable.build base).mapError .handler).andThen fun handlers =>
    (resolveEach { base with handlers } [] (m.governing.flatMap Governed.sources)).andThen
      fun known =>
        .ok
          ({ handlers := handlers.keys
             entries := m.entries.snapshot m.schema
             installs := m.governing.map (m.recordOf known) },
           m.governing.flatMap (installsOn known))

/-- Builds the gates of all governed entries. The first call closes the registration whatever comes
of it, and every later one is refused; unless everything resolves, nothing is to be installed. -/
def build (m : Manager) (typeOf : EntryId → ValueType) :
    Manager × Noted BuildError (Report × List Install) :=
  match m.state with
  | .resolved => (m, .error .alreadyBuilt)
  | .registering => ({ m with state := .resolved }, m.resolve typeOf)

end Manager

end FieldGate
