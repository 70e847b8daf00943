import FieldGate.Value

/-! Parameters and signatures of methods. -/
namespace FieldGate

/-- What a type variable may stand for. -/
inductive TypeBound
  | any
  | number
  deriving DecidableEq, Repr

/-- The type of a parameter. A variable stands for a type that the arguments decide. -/
inductive ParamType
  | exact (type : ValueType)
  | number
  | any
  | generic (name : String) (bound : TypeBound)
  deriving DecidableEq, Repr

namespace TypeBound

def accepts : TypeBound → ValueType → Bool
  | any, _ => true
  | number, t => t.isNumeric

def toParam : TypeBound → ParamType
  | any => .any
  | number => .number

end TypeBound

namespace ParamType

def accepts : ParamType → ValueType → Bool
  | exact expected, t => expected = t
  | number, t => t.isNumeric
  | any, _ => true
  | .generic _ bound, t => bound.accepts t

/-- The least parameter type that accepts what this one does and also the given type, if the two
are related. -/
def join? : ParamType → ValueType → Option ParamType
  | exact s, t =>
    if s = t then some (exact s)
    else if s.isNumeric && t.isNumeric then some number
    else none
  | number, t => if t.isNumeric then some number else none
  | any, _ => some any
  | .generic _ bound, t => if bound.accepts t then some (exact t) else none

def name : ParamType → String
  | exact t => t.name
  | number => "Number"
  | any => "Any"
  | .generic name _ => name

def erase : ParamType → ParamType
  | .generic _ bound => bound.toParam
  | p => p

end ParamType

/-- A method: its parameters, the element type of a last parameter that takes any number of
arguments, what it returns, whether it needs an instance, and the failures it declares. -/
structure Signature where
  params : List ParamType := []
  variadic : Option ParamType := none
  returns : ValueType := .bool
  onInstance : Bool := false
  failures : List String := []
  deriving DecidableEq, Repr

namespace Signature

def predicate (params : List ParamType) : Signature := { params }

def isVariadic (s : Signature) : Bool := s.variadic.isSome

def descriptors (s : Signature) : List String :=
  s.params.map ParamType.name ++ (s.variadic.toList.map fun p => p.name ++ "...")

def text (s : Signature) : String := "(" ++ Text.join ", " s.descriptors ++ ")"

def admits (s : Signature) (count : Nat) : Bool :=
  if s.isVariadic then s.params.length ≤ count else count == s.params.length

end Signature

end FieldGate
