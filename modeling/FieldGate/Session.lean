import FieldGate.Entry

/-! A session: named entries, a manager and a table of handlers over one schema, each of which can
be let go. An entry is there as long as one of them holds on to it. -/
namespace FieldGate

variable [PatternEngine]

/-- Why a move of a session is refused. -/
inductive SessionError
  | noEntry
  | noManager
  | noHandler
  | noRequirement
  | build (error : BuildError)
  | handler (error : HandlerError)
  | lookup (error : LookupError)
  | reference (error : ReferenceError)

structure Session where
  schema : Schema
  config : Config
  entries : Entries := {}
  names : List (String × EntryId) := []
  manager : Option Manager := none
  handlers : Option HandlerTable := none
  bound : List (String × Gate) := []
  invoked : List MethodId := []

/-- What is known of an entry by checking its gates. -/
structure EntryStatus where
  enabled : Except CheckError Bool
  displayed : Except CheckError Bool
  installs : Nat
  enableGate : Option Gate
  displayGate : Option Gate

/-- A handler of the session's table. -/
structure HandlerStatus where
  handler : Handler
  default : Option (Except CheckError Bool)
  reachable : Bool

namespace Session

/-- A session whose entries have names, types and values. -/
def start (schema : Schema) (config : Config) (entries : List (String × ValueType × Value)) :
    Session :=
  { schema, config
    entries := ⟨entries.map fun (_, type, value) => { type, value }⟩
    names := entries.zipIdx.map fun ((name, _), i) => (name, ⟨i⟩)
    manager := some { schema, config } }

def entryNamed (s : Session) (name : String) : Except SessionError EntryId :=
  match s.names.lookup name with
  | some e => .ok e
  | none => .error .noEntry

def nameOf? (s : Session) (e : EntryId) : Option String :=
  (s.names.find? fun p => p.2 == e).map (·.1)

def currentManager (s : Session) : Except SessionError Manager :=
  match s.manager with
  | some m => .ok m
  | none => .error .noManager

/-- Whether anything holds on to an entry. Gates do not. -/
def holds (s : Session) (e : EntryId) : Bool :=
  (s.names.any fun p => p.2 == e) ||
    (match s.manager with
      | some m => m.holds e
      | none => false) ||
    (match s.handlers with
      | some t => t.holds e
      | none => false)

def live (s : Session) : Live := fun e =>
  if s.holds e then (s.entries.get? e).map Entry.value else none

def check (s : Session) (g : Gate) : Except CheckError Bool × Session :=
  (g.outcome s.live, { s with invoked := s.invoked ++ g.invocations s.live })

/-- Checks a gate that may be missing, which lets everything through. -/
def checkOptional (s : Session) : Option Gate → Except CheckError Bool × Session
  | some g => s.check g
  | none => (.ok true, s)

def withManager (s : Session) (m : Manager) : Session := { s with manager := some m }

def change (s : Session) (f : Manager → Except BuildError Manager) :
    Except SessionError Session := do
  let m ← s.currentManager
  return s.withManager (← (f m).mapError .build)

def register (s : Session) (f : FieldId) (names : List String) : Except SessionError Session := do
  let es ← names.mapM s.entryNamed
  s.change fun m => m.register f es

def registerDeclared (s : Session) (f : FieldId) (names : List String) :
    Except SessionError Session := do
  let es ← names.mapM s.entryNamed
  s.change fun m => m.registerDeclared f es

def deregister (s : Session) (f : FieldId) : Except SessionError Session :=
  s.change fun m => m.deregister f

def registerKeyed (s : Session) (fields : List FieldId) : Except SessionError Session :=
  fields.foldlM (fun s f => s.register f [s.schema.fieldKey f]) s

def build (s : Session) : Session × Noted SessionError Report :=
  match s.manager with
  | none => (s, .error .noManager)
  | some m =>
    let (m, built) := m.build s.entries.typeOf
    let s := s.withManager m
    match built with
    | ⟨warnings, .ok (report, installs)⟩ =>
      ({ s with entries := s.entries.installAll installs }, ⟨warnings, .ok report⟩)
    | ⟨warnings, .error e⟩ => (s, ⟨warnings, .error (.build e)⟩)

def setValue (s : Session) (name : String) (v : Value) : Except SessionError Session := do
  let e ← s.entryNamed name
  return { s with entries := s.entries.modify e fun entry => { entry with value := v } }

def installConstant (s : Session) (name : String) (action : Action) (verdict : Option Bool) :
    Except SessionError Session := do
  let e ← s.entryNamed name
  let gate : Option Gate := verdict.map fun b => .leaf (.constant b)
  return { s with entries := s.entries.modify e fun entry => entry.install action gate }

def status (s : Session) (name : String) : Except SessionError (EntryStatus × Session) := do
  let e ← s.entryNamed name
  match s.entries.get? e with
  | none => throw .noEntry
  | some entry =>
    let (enabled, s) := s.checkOptional entry.enable
    let (displayed, s) := s.checkOptional entry.display
    return ({ enabled, displayed, installs := entry.installs,
              enableGate := entry.enable, displayGate := entry.display }, s)

private def statusEach (s : Session) :
    List String → Except SessionError (List (String × EntryStatus) × Session)
  | [] => .ok ([], s)
  | name :: rest => do
    let (status, s) ← s.status name
    let (statuses, s) ← statusEach s rest
    return ((name, status) :: statuses, s)

def statusOfAll (s : Session) : Except SessionError (List (String × EntryStatus) × Session) :=
  statusEach s ((s.names.map (·.1)).mergeSort fun a b => a ≤ b)

def takeInvoked (s : Session) : List MethodId × Session := (s.invoked, { s with invoked := [] })

def statusOfHandlers (t : HandlerTable) (s : Session) :
    List String → List HandlerStatus × Session
  | [] => ([], s)
  | key :: rest =>
    match t.byKey? key with
    | none => statusOfHandlers t s rest
    | some handler =>
      let (default, s) := match handler.default with
        | some g => let (outcome, s) := s.check g; (some outcome, s)
        | none => (none, s)
      let reachable := match t.get? handler.method with
        | some h => h.key == key
        | none => false
      let (statuses, s) := statusOfHandlers t s rest
      ({ handler, default, reachable } :: statuses, s)

/-- Builds the table of handlers from what is registered. If it cannot be built the old one stays.
-/
def buildHandlers (s : Session) : Session × Noted SessionError (List HandlerStatus) :=
  match s.manager with
  | none => (s, .error .noManager)
  | some m =>
    match HandlerTable.build
        { schema := s.schema, config := s.config, entries := m.entries,
          typeOf := s.entries.typeOf } with
    | ⟨warnings, .error e⟩ => (s, ⟨warnings, .error (.handler e)⟩)
    | ⟨warnings, .ok t⟩ =>
      let (statuses, s) := statusOfHandlers t { s with handlers := some t } t.keys
      (s, ⟨warnings, .ok statuses⟩)

/-- Binds a handler of the table to named entries, whose names are their labels, and checks the
gate. It is kept under a name if one is given. -/
def bind (s : Session) (key : String) (site literals : List String) (name : Option String) :
    Session × Noted SessionError (Except CheckError Bool) :=
  match site.mapM s.entryNamed, s.handlers.bind fun t => t.byKey? key with
  | .error e, _ => (s, .error e)
  | .ok _, none => (s, .error .noHandler)
  | .ok es, some h =>
    let args := (es.zip site).map fun (e, label) => (⟨e, label⟩ : BoundEntry)
    match h.bind s.entries.typeOf args literals with
    | ⟨warnings, .error e⟩ => (s, ⟨warnings, .error (.handler e)⟩)
    | ⟨warnings, .ok g⟩ =>
      let (outcome, s) := s.check g
      let bound := match name with
        | some n => (n, g) :: s.bound.filter fun p => p.1 != n
        | none => s.bound
      ({ s with bound }, ⟨warnings, .ok outcome⟩)

def eval (s : Session) (name : String) :
    Except SessionError (Except CheckError Bool × Session) :=
  match s.bound.lookup name with
  | some g => .ok (s.check g)
  | none => .error .noRequirement

def drop (s : Session) (name : String) : Except SessionError Session := do
  let _ ← s.entryNamed name
  return { s with names := s.names.filter fun p => p.1 != name }

def dropManager (s : Session) : Session := { s with manager := none }

def dropHandlers (s : Session) : Session := { s with handlers := none }

def entriesOf (s : Session) (f : FieldId) :
    Except SessionError (Bool × List (Option String)) := do
  let m ← s.currentManager
  return (m.entries.contains f, (m.entries.entries f).map s.nameOf?)

/-- The entry at a place of a field, if there is one, by its name, if it has one. -/
def entryAt (s : Session) (f : FieldId) (index : Int) :
    Except SessionError (Option (Option String)) := do
  let m ← s.currentManager
  return (m.entries.entryAt? f index).map s.nameOf?

def entryOf (s : Session) (r : FieldReference) : Except SessionError (Option String) := do
  let m ← s.currentManager
  let e ← (m.entries.entry r).mapError .lookup
  return s.nameOf? e

def entryFrom (s : Session) (base : TypeId) (text : String) :
    Except SessionError (Option String) := do
  let r ← (s.schema.parseField s.config.trimReferences base text).mapError .reference
  s.entryOf r

end Session

end FieldGate
