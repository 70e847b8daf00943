import FieldGate.Declaration
import FieldGate.Signature

/-! Schemas: types with their fields and methods, and the declarations on the fields. -/
namespace FieldGate

/-- A type, by its place in the schema. -/
structure TypeId where
  index : Nat
  deriving DecidableEq, Repr

/-- A field, by its place in its type. -/
structure FieldId where
  owner : TypeId
  slot : Nat
  deriving DecidableEq, Repr

/-- A method, by its place in its type. -/
structure MethodId where
  owner : TypeId
  slot : Nat
  deriving DecidableEq, Repr

/-- What a handler does with its arguments: a verdict, or a message if it fails. The arguments of a
variadic parameter come as one list. -/
abbrev HandlerBody := List Value → Except String Bool

/-- What makes a method a handler: references to the fields that are its first arguments wherever
it is called, and its body. -/
structure HandlerSpec where
  constParams : List String := []
  body : HandlerBody

/-- A field with the requirements declared on it. -/
structure FieldDef where
  id : FieldId
  name : String
  type : ValueType
  declarations : List Declaration := []

/-- A method, which is a handler if it has a body. -/
structure MethodDef where
  id : MethodId
  name : String
  signature : Signature
  handler : Option HandlerSpec := none

/-- A type with its names, members and the types around and inside it. -/
structure TypeDef where
  id : TypeId
  package : String
  simpleName : String
  enclosing : Option TypeId := none
  qualifiedName : String
  nested : List TypeId := []
  fields : List FieldDef := []
  methods : List MethodDef := []

/-- A schema. Types are found by their place; handler types are those whose handlers are looked
for, in the order in which they became so. -/
structure Schema where
  types : List TypeDef := []
  handlerTypes : List TypeId := []

namespace MethodDef

def isHandler (m : MethodDef) : Bool := m.handler.isSome

def text (m : MethodDef) : String := m.name ++ m.signature.text

end MethodDef

namespace TypeDef

def fieldNamed? (t : TypeDef) (name : String) : Option FieldDef :=
  t.fields.find? fun f => f.name == name

def methodsNamed (t : TypeDef) (name : String) : List MethodDef :=
  t.methods.filter fun m => m.name == name

end TypeDef

namespace Schema

def type? (s : Schema) (id : TypeId) : Option TypeDef := s.types[id.index]?

def lookup? (s : Schema) (qualifiedName : String) : Option TypeId :=
  (s.types.find? fun t => t.qualifiedName == qualifiedName).map TypeDef.id

def field? (s : Schema) (id : FieldId) : Option FieldDef :=
  (s.type? id.owner).bind fun t => t.fields[id.slot]?

def method? (s : Schema) (id : MethodId) : Option MethodDef :=
  (s.type? id.owner).bind fun t => t.methods[id.slot]?

def enclosing? (s : Schema) (id : TypeId) : Option TypeId := (s.type? id).bind TypeDef.enclosing

/-- A type and up to so many of those around it, the innermost first. -/
def chainOfLength (s : Schema) : Nat → TypeId → List TypeId
  | 0, id => [id]
  | n + 1, id =>
    id :: match s.enclosing? id with
      | some outer => chainOfLength s n outer
      | none => []

/-- A type and all those around it, the innermost first. A type is declared after the one that it
is nested in, so its place bounds their number. -/
def enclosingChain (s : Schema) (id : TypeId) : List TypeId := s.chainOfLength id.index id

def typeName (s : Schema) (id : TypeId) : String :=
  match s.type? id with
  | some t => t.qualifiedName
  | none => "<type " ++ toString id.index ++ ">"

def memberKey (s : Schema) (owner : TypeId) (name : Option String) : String :=
  s.typeName owner ++ "#" ++ name.getD "?"

def fieldKey (s : Schema) (id : FieldId) : String :=
  s.memberKey id.owner ((s.field? id).map FieldDef.name)

/-- The name of a method with that of its type; all methods of one name share it. -/
def methodKey (s : Schema) (id : MethodId) : String :=
  s.memberKey id.owner ((s.method? id).map MethodDef.name)

def handlerMethods (s : Schema) : List MethodDef :=
  (s.handlerTypes.filterMap s.type?).flatMap fun t => t.methods.filter MethodDef.isHandler

def governingFields (s : Schema) : List FieldDef :=
  s.types.flatMap fun t => t.fields.filter fun f => !f.declarations.isEmpty

end Schema

end FieldGate
