import FieldGate.PatternEngine
import FieldGate.Value

/-! Literal texts of values, and why a condition cannot be used for its target. -/
namespace FieldGate

/-- Why a condition or a pattern is refused. -/
inductive ConditionError
  | invalidBoolean (literal : String)
  | invalidEnumConstant (literal enumName : String)
  | invalidNumber (literal typeName : String) (reason : NumberError)
  | invalidChar (literal : String)
  | invalidPattern (pattern reason : String)
  | missingConditions (typeName : String)
  | unsupportedType (typeName : String)
  deriving DecidableEq, Repr

def ConditionError.message : ConditionError → String
  | invalidBoolean literal => "Invalid boolean condition \"" ++ literal ++ "\""
  | invalidEnumConstant literal enumName =>
    "Invalid enum constant \"" ++ literal ++ "\" (not found in " ++ enumName ++ ")"
  | invalidNumber literal typeName reason =>
    "Invalid " ++ typeName ++ " condition \"" ++ literal ++ "\": " ++ reason.message
  | invalidChar literal =>
    "Invalid char condition \"" ++ literal ++ "\" (expected exactly one character)"
  | invalidPattern pattern reason =>
    "Invalid regex condition \"" ++ pattern ++ "\": " ++ reason
  | missingConditions typeName =>
    "No conditions declared for non-boolean target of type " ++ typeName
  | unsupportedType typeName => "No literal parser for type " ++ typeName

namespace Literal

/-- Reads a truth value, as the two patterns of the library spell them. -/
def readBool [PatternEngine] (literal : String) : Except ConditionError Bool :=
  if PatternEngine.isMatch PatternEngine.trueCode literal then .ok true
  else if PatternEngine.isMatch PatternEngine.falseCode literal then .ok false
  else .error (.invalidBoolean literal)

def readChar (literal : String) : Except ConditionError Char :=
  match literal.toList with
  | [c] => .ok c
  | _ => .error (.invalidChar literal)

def readConstant (type : EnumType) (literal : String) : Except ConditionError String :=
  if type.constants.contains literal then .ok literal
  else .error (.invalidEnumConstant literal type.name)

def readNumber (kind : NumberKind) (literal : String) : Except ConditionError Number :=
  (Number.read kind literal.toList).mapError (.invalidNumber literal kind.name)

/-- Types whose values have literals that are read. Values of other types are compared as text. -/
def isReadable : ValueType → Bool
  | .bool | .char | .enum _ | .number _ => true
  | _ => false

def read [PatternEngine] : ValueType → String → Except ConditionError Value
  | .bool, s => (readBool s).map .bool
  | .char, s => (readChar s).map .char
  | .enum e, s => (readConstant e s).map .enum
  | .number k, s => (readNumber k s).map .number
  | .text, s => .ok (.text s)
  | type, _ => .error (.unsupportedType type.name)

end Literal

end FieldGate
