import FieldGate.Schema.Builder

/-! Handlers that any schema can take over: whether a value is true or false, whether two values
are equal, and whether any two of several are. -/
namespace FieldGate.Builtin

/-- Equality of values, in which numbers are compared across kinds. -/
def valuesEqual (a b : Value) : Bool :=
  match a.toInt?, b.toInt? with
  | some m, some n => m == n
  | _, _ =>
    match a.toDouble?, b.toDouble? with
    | some x, some y => x.same y
    | _, _ => a.same b

/-- Whether two of the items are equal. -/
def anyMatch : List Value → Bool
  | [] => false
  | a :: rest => rest.any (valuesEqual a) || anyMatch rest

def isTrue : HandlerBody
  | [.bool b] => .ok b
  | [v] => .error ("expected bool, found " ++ v.kindName)
  | _ => .error "expected one argument"

def isFalse : HandlerBody := fun args => (isTrue args).map Bool.not

def equal : HandlerBody
  | [a, b] => .ok (valuesEqual a b)
  | _ => .error "expected two arguments"

def matching : HandlerBody
  | [.list items] => .ok (anyMatch items)
  | _ => .error "expected packed variadic arguments"

def all : List (String × Signature × HandlerBody) :=
  let t : ParamType := .generic "T" .any
  [("isTrue", .predicate [.exact .bool], isTrue),
   ("isFalse", .predicate [.exact .bool], isFalse),
   ("is", .predicate [t, t], equal),
   ("anyMatch", { variadic := some .any }, matching)]

def addEach (owner : TypeId) :
    List (String × Signature × HandlerBody) → Schema → Except SchemaError (Schema × List MethodId)
  | [], s => .ok (s, [])
  | (name, signature, body) :: rest, s =>
    match s.addHandler owner name signature { body } with
    | .error e => .error e
    | .ok (s, id) => (addEach owner rest s).map fun (s, ids) => (s, id :: ids)

def install (s : Schema) (owner : TypeId) : Except SchemaError (Schema × List MethodId) :=
  addEach owner all s

end FieldGate.Builtin
