import FieldGate.Config
import FieldGate.Reference.Scan

/-! References to fields and methods, resolved against a schema from a type within it. -/
namespace FieldGate

/-- A defect of a reference, with its text and the type that it was read from. -/
structure ReferenceError where
  reference : String
  base : String
  defect : ReferenceDefect
  deriving DecidableEq, Repr

namespace ReferenceError

def message (e : ReferenceError) : String :=
  "malformed reference \"" ++ e.reference ++ "\" (from " ++ e.base ++ "): " ++ e.defect.message

def isUnresolved (e : ReferenceError) : Bool := e.defect.isUnresolved

end ReferenceError

/-- A field and the place of an entry among those of the field; a negative place counts from the
last. -/
structure FieldTarget where
  field : FieldId
  index : Int32
  deriving DecidableEq, Repr

/-- What a reference names. -/
inductive Target
  | field (target : FieldTarget)
  | method (id : MethodId)
  deriving DecidableEq, Repr

/-- A reference to a field, with its text. -/
structure FieldReference where
  target : FieldTarget
  text : String
  deriving DecidableEq, Repr

/-- A reference with its text. -/
structure Reference where
  target : Target
  text : String
  deriving DecidableEq, Repr

/-- Without an index, a reference means the last entry. -/
def FieldTarget.lastEntry : Int32 := -1

namespace Schema

def lookupInChain (s : Schema) (path : String) (chain : List TypeId) : Option TypeId :=
  chain.findSome? fun scope => s.lookup? (s.typeName scope ++ "." ++ path)

def lookupInPackage (s : Schema) (base : TypeId) (path : String) : Option TypeId :=
  match s.type? base with
  | some t => if t.package.isEmpty then none else s.lookup? (t.package ++ "." ++ path)
  | none => none

/-- The type that a path names: in the base type or one around it, in its package, or by its
qualified name. An empty path means the base type. -/
def resolveType (s : Schema) (base : TypeId) (r : RawReference) : Option TypeId :=
  if r.path.isEmpty then (s.type? base).map TypeDef.id
  else
    (s.lookupInChain r.joinedPath (s.enclosingChain base)).or <|
      (s.lookupInPackage base r.joinedPath).or (s.lookup? r.joinedPath)

/-- Whether a method has the given parameter types, blanks apart. -/
def hasParameters (m : MethodDef) (params : List String) : Bool :=
  (m.signature.descriptors.map fun d => String.ofList (Text.withoutBlanks d.toList)) == params

def candidates (t : TypeDef) (r : RawReference) : List MethodDef :=
  (t.methodsNamed r.member).filter fun m =>
    match r.descriptor with
    | none => true
    | some params => hasParameters m params

/-- The field of a type that a reference means. Parameter types rule fields out. -/
def fieldOf (t : TypeDef) (r : RawReference) : Option FieldDef :=
  match r.descriptor with
  | none => t.fieldNamed? r.member
  | some _ => none

def resolveMember (t : TypeDef) (r : RawReference) : Except ReferenceDefect Target :=
  match fieldOf t r with
  | some f => .ok (.field ⟨f.id, (r.index.map Int32.ofNat).getD FieldTarget.lastEntry⟩)
  | none =>
    match candidates t r with
    | [] =>
      .error (.noSuchMember t.qualifiedName r.member (t.fields.map FieldDef.name)
        (t.methods.map MethodDef.text))
    | [m] => if r.index.isSome then .error .indexOnMethod else .ok (.method m.id)
    | ms => .error (.ambiguousMember t.qualifiedName r.member (ms.map MethodDef.text))

def resolve (s : Schema) (base : TypeId) (r : RawReference) : Except ReferenceDefect Target :=
  match (s.resolveType base r).bind s.type? with
  | some t => resolveMember t r
  | none => .error (.unknownType r.joinedPath)

private def located (s : Schema) (base : TypeId) (text : String) (d : ReferenceDefect) :
    ReferenceError :=
  ⟨text, s.typeName base, d⟩

def parse (s : Schema) (trim : Bool) (base : TypeId) (text : String) :
    Except ReferenceError Reference :=
  match RawReference.scan trim text.toList with
  | .error d => .error (s.located base text d)
  | .ok r =>
    match s.resolve base r with
    | .error d => .error (s.located base text d)
    | .ok target => .ok ⟨target, text⟩

def parseField (s : Schema) (trim : Bool) (base : TypeId) (text : String) :
    Except ReferenceError FieldReference :=
  match s.parse trim base text with
  | .error e => .error e
  | .ok ⟨.field target, text⟩ => .ok ⟨target, text⟩
  | .ok ⟨.method id, text⟩ => .error (s.located base text (.expectedField (s.methodKey id)))

/-- The text of a reference by qualified name, with an index unless it counts from the last entry,
and with the parameter types of a method. -/
def canonical (s : Schema) : Target → String
  | .field t =>
    if 0 ≤ t.index then
      s.fieldKey t.field ++ "[" ++ String.ofList (digitsOfInt t.index.toInt) ++ "]"
    else s.fieldKey t.field
  | .method id =>
    let params := match s.method? id with
      | some m => m.signature.descriptors
      | none => []
    s.methodKey id ++ "(" ++ Text.join ", " params ++ ")"

end Schema

end FieldGate
