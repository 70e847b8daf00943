import FieldGate.Handler.Builtin

/-! Schemas that are built in place. A step changes a draft as it goes, so what a refused step
leaves behind is all that it did before it was refused. -/
namespace FieldGate

/-- A schema under construction, with an index of its types by their qualified names. -/
structure Draft where
  types : List TypeDef := []
  index : List (String × TypeId) := []
  handlerTypes : List TypeId := []

namespace Draft

abbrev Edit (α : Type) := EStateM SchemaError Draft α

def schema (d : Draft) : Schema := { types := d.types, handlerTypes := d.handlerTypes }

def checked : Except SchemaError Unit → Edit Unit
  | .ok () => pure ()
  | .error e => throw e

def typeAt (id : TypeId) : Edit TypeDef := do
  match (← get).types[id.index]? with
  | some t => return t
  | none => throw (.unknownType id.index)

def change (id : TypeId) (f : TypeDef → TypeDef) : Edit Unit :=
  modify fun d => { d with types := d.types.modify id.index f }

/-- Enters a name in the index and puts its type at the end. -/
def insertType (package simpleName : String) (enclosing : Option TypeId)
    (qualifiedName : String) : Edit TypeId := do
  checked (Schema.checkIdentifier simpleName)
  let d ← get
  if (d.index.lookup qualifiedName).isSome then
    throw (.duplicateType qualifiedName)
  else
    let id : TypeId := ⟨d.types.length⟩
    let t : TypeDef := { id, package, simpleName, enclosing, qualifiedName }
    modify fun d => { d with index := (qualifiedName, id) :: d.index }
    modify fun d => { d with types := d.types ++ [t] }
    return id

def addRootType (package simpleName : String) : Edit TypeId := do
  let segments := if package.isEmpty then [] else Text.splitOn '.' package.toList
  let qualified := if package.isEmpty then simpleName else package ++ "." ++ simpleName
  checked (Schema.checkSegments segments)
  insertType package simpleName none qualified

/-- Declares a type and only then lists it in the type around it. -/
def addNestedType (parent : TypeId) (simpleName : String) : Edit TypeId := do
  let p ← typeAt parent
  let id ← insertType p.package simpleName (some parent) (p.qualifiedName ++ "." ++ simpleName)
  change parent fun p => { p with nested := p.nested ++ [id] }
  return id

def addField (owner : TypeId) (name : String) (type : ValueType) : Edit FieldId := do
  checked (Schema.checkIdentifier name)
  let t ← typeAt owner
  if (t.fieldNamed? name).isSome then
    throw (.duplicateField t.qualifiedName name)
  else
    let id : FieldId := ⟨owner, t.fields.length⟩
    change owner fun t => { t with fields := t.fields ++ [{ id, name, type }] }
    return id

def require (id : FieldId) (d : Declaration) : Edit Unit := do
  let t ← typeAt id.owner
  match t.fields[id.slot]? with
  | none => throw (.unknownType id.owner.index)
  | some _ =>
    change id.owner fun t =>
      { t with fields := t.fields.modify id.slot fun f =>
          { f with declarations := f.declarations ++ [d] } }

def pushMethod (owner : TypeId) (name : String) (signature : Signature)
    (handler : Option HandlerSpec) : Edit MethodId := do
  checked (Schema.checkIdentifier name)
  let t ← typeAt owner
  let id : MethodId := ⟨owner, t.methods.length⟩
  change owner fun t => { t with methods := t.methods ++ [{ id, name, signature, handler }] }
  return id

def addMethod (owner : TypeId) (name : String) (signature : Signature) : Edit MethodId :=
  pushMethod owner name signature none

def markHandlerType (owner : TypeId) : Edit Unit := do
  let _ ← typeAt owner
  modify fun d =>
    if d.handlerTypes.contains owner then d
    else { d with handlerTypes := d.handlerTypes ++ [owner] }

/-- Declares a handler and only then makes its type a handler type. -/
def addHandler (owner : TypeId) (name : String) (signature : Signature) (spec : HandlerSpec) :
    Edit MethodId := do
  let id ← pushMethod owner name signature (some spec)
  markHandlerType owner
  return id

def addHandlers (owner : TypeId) :
    List (String × Signature × HandlerBody) → Edit (List MethodId)
  | [] => return []
  | (name, signature, body) :: rest => do
    let id ← addHandler owner name signature { body }
    let ids ← addHandlers owner rest
    return id :: ids

/-- What can be done to a draft. -/
inductive Step
  | rootType (package name : String)
  | nestedType (parent : TypeId) (name : String)
  | field (owner : TypeId) (name : String) (type : ValueType)
  | require (id : FieldId) (d : Declaration)
  | method (owner : TypeId) (name : String) (signature : Signature)
  | handler (owner : TypeId) (name : String) (signature : Signature) (spec : HandlerSpec)
  | handlerType (owner : TypeId)
  | builtins (owner : TypeId)

def Step.perform : Step → Edit Unit
  | rootType package name => discard (addRootType package name)
  | nestedType parent name => discard (addNestedType parent name)
  | field owner name type => discard (addField owner name type)
  | require id d => Draft.require id d
  | method owner name signature => discard (addMethod owner name signature)
  | handler owner name signature spec => discard (addHandler owner name signature spec)
  | handlerType owner => markHandlerType owner
  | builtins owner => discard (addHandlers owner Builtin.all)

def Step.apply (step : Step) (s : Schema) : Except SchemaError Schema :=
  match step with
  | rootType package name => (s.addRootType package name).map Prod.fst
  | nestedType parent name => (s.addNestedType parent name).map Prod.fst
  | field owner name type => (s.addField owner name type).map Prod.fst
  | require id d => s.require id d
  | method owner name signature => (s.addMethod owner name signature).map Prod.fst
  | handler owner name signature spec => (s.addHandler owner name signature spec).map Prod.fst
  | handlerType owner => s.markHandlerType owner
  | builtins owner => (Builtin.install s owner).map Prod.fst

/-- The draft that an edit leaves behind, refused or not. -/
def left {α : Type} : EStateM.Result SchemaError Draft α → Draft
  | .ok _ d => d
  | .error _ d => d

/-- Goes on after refused steps with what they leave behind. -/
def run (d : Draft) (steps : List Step) : Draft :=
  steps.foldl (fun d step => left (step.perform d)) d

end Draft
end FieldGate
