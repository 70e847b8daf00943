import FieldGate.Schema

/-! Building schemas step by step. A step that is refused changes nothing. -/
namespace FieldGate

/-- Why a declaration of a type or member is refused. -/
inductive SchemaError
  | duplicateType (qualifiedName : String)
  | duplicateField (owner field : String)
  | unknownType (index : Nat)
  | invalidIdentifier (name : String)
  deriving DecidableEq, Repr

def SchemaError.message (e : SchemaError) : String :=
  "Schema error: " ++
    match e with
    | duplicateType qualifiedName => "Duplicate type: " ++ qualifiedName
    | duplicateField owner field => "Duplicate field " ++ field ++ " on " ++ owner
    | unknownType index => "Unknown type id " ++ toString index
    | invalidIdentifier name => "Invalid identifier '" ++ name ++ "': not a valid identifier"

def isIdentifierStart (c : Char) : Bool := Unicode.isAlphabetic c || c == '_' || c == '$'

def isIdentifierPart (c : Char) : Bool := Unicode.isAlphanumeric c || c == '_' || c == '$'

def isIdentifier : List Char → Bool
  | [] => false
  | c :: rest => isIdentifierStart c && rest.all isIdentifierPart

namespace Schema

def checkIdentifier (name : String) : Except SchemaError Unit :=
  if isIdentifier name.toList then .ok () else .error (.invalidIdentifier name)

def checkSegments : List (List Char) → Except SchemaError Unit
  | [] => .ok ()
  | segment :: rest =>
    match checkIdentifier (String.ofList segment) with
    | .ok () => checkSegments rest
    | .error e => .error e

def nextType (s : Schema) : TypeId := ⟨s.types.length⟩

def insertType (s : Schema) (package simpleName : String) (enclosing : Option TypeId)
    (qualifiedName : String) : Except SchemaError Schema :=
  match checkIdentifier simpleName with
  | .error e => .error e
  | .ok () =>
    if (s.lookup? qualifiedName).isSome then .error (.duplicateType qualifiedName)
    else
      let t : TypeDef := { id := s.nextType, package, simpleName, enclosing, qualifiedName }
      .ok { s with types := s.types ++ [t] }

def addRootType (s : Schema) (package simpleName : String) :
    Except SchemaError (Schema × TypeId) :=
  let segments := if package.isEmpty then [] else Text.splitOn '.' package.toList
  let qualified := if package.isEmpty then simpleName else package ++ "." ++ simpleName
  match checkSegments segments with
  | .error e => .error e
  | .ok () => (s.insertType package simpleName none qualified).map (·, s.nextType)

def modifyType (s : Schema) (id : TypeId) (f : TypeDef → TypeDef) : Schema :=
  { s with types := s.types.modify id.index f }

def addNestedType (s : Schema) (parent : TypeId) (simpleName : String) :
    Except SchemaError (Schema × TypeId) :=
  match s.type? parent with
  | none => .error (.unknownType parent.index)
  | some p =>
    match s.insertType p.package simpleName (some parent)
        (p.qualifiedName ++ "." ++ simpleName) with
    | .error e => .error e
    | .ok s' =>
      .ok (s'.modifyType parent fun p => { p with nested := p.nested ++ [s.nextType] }, s.nextType)

def addField (s : Schema) (owner : TypeId) (name : String) (type : ValueType) :
    Except SchemaError (Schema × FieldId) :=
  match checkIdentifier name, s.type? owner with
  | .error e, _ => .error e
  | .ok (), none => .error (.unknownType owner.index)
  | .ok (), some t =>
    if (t.fieldNamed? name).isSome then .error (.duplicateField t.qualifiedName name)
    else
      let id : FieldId := ⟨owner, t.fields.length⟩
      .ok (s.modifyType owner fun t => { t with fields := t.fields ++ [{ id, name, type }] }, id)

/-- Adds a declared requirement to a field. A field that is not there counts as one of an unknown
type. -/
def require (s : Schema) (id : FieldId) (d : Declaration) : Except SchemaError Schema :=
  match s.field? id with
  | none => .error (.unknownType id.owner.index)
  | some _ =>
    .ok (s.modifyType id.owner fun t =>
      { t with fields := t.fields.modify id.slot fun f =>
          { f with declarations := f.declarations ++ [d] } })

def pushMethod (s : Schema) (owner : TypeId) (name : String) (signature : Signature)
    (handler : Option HandlerSpec) : Except SchemaError (Schema × MethodId) :=
  match checkIdentifier name, s.type? owner with
  | .error e, _ => .error e
  | .ok (), none => .error (.unknownType owner.index)
  | .ok (), some t =>
    let id : MethodId := ⟨owner, t.methods.length⟩
    .ok (s.modifyType owner fun t =>
      { t with methods := t.methods ++ [{ id, name, signature, handler }] }, id)

/-- Declares a method that is no handler. Methods may share a name. -/
def addMethod (s : Schema) (owner : TypeId) (name : String) (signature : Signature) :
    Except SchemaError (Schema × MethodId) :=
  s.pushMethod owner name signature none

def withHandlerType (s : Schema) (owner : TypeId) : Schema :=
  if s.handlerTypes.contains owner then s else { s with handlerTypes := s.handlerTypes ++ [owner] }

def markHandlerType (s : Schema) (owner : TypeId) : Except SchemaError Schema :=
  match s.type? owner with
  | none => .error (.unknownType owner.index)
  | some _ => .ok (s.withHandlerType owner)

/-- Declares a handler and makes its type a handler type. -/
def addHandler (s : Schema) (owner : TypeId) (name : String) (signature : Signature)
    (spec : HandlerSpec) : Except SchemaError (Schema × MethodId) :=
  (s.pushMethod owner name signature (some spec)).map fun (s, id) => (s.withHandlerType owner, id)

end Schema

end FieldGate
