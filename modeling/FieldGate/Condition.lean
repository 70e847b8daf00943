import FieldGate.CheckError
import FieldGate.Condition.Comparison
import FieldGate.Condition.Literal

/-! Conditions on the live value of a field: literals to compare with and patterns to match. -/
namespace FieldGate

variable [PatternEngine]

/-- What a live value is compared with. A text is compared with the displayed value. -/
inductive Condition
  | equals (expected : Value)
  | compares (op : Comparison) (literal : Number)
  | reads (text : String)

namespace Condition

/-- Reads a condition on a number. Blanks anywhere in it do not count. -/
def ofNumber (kind : NumberKind) (literal : String) : Except ConditionError Condition :=
  let (op, number) := Comparison.split (Text.withoutBlanks literal.toList)
  match Number.read kind number with
  | .ok n => .ok (.compares op n)
  | .error e => .error (.invalidNumber literal kind.name e)

def ofLiteral (type : ValueType) (literal : String) : Except ConditionError Condition :=
  match type with
  | .number kind => ofNumber kind literal
  | type => if Literal.isReadable type then (Literal.read type literal).map .equals
    else .ok (.reads literal)

private def unexpected (target expected : String) (found : Value) : CheckError :=
  .unexpectedValue target expected found.kindName

/-- Whether the live value meets the condition. A value of a kind that the condition cannot be
compared with is an error; any value can be compared as text. -/
def matches? (c : Condition) (target : String) (v : Value) : Except CheckError Bool :=
  match c with
  | equals expected =>
    if expected.sameKind v then .ok (expected.same v)
    else .error (unexpected target expected.kindName v)
  | compares op literal =>
    match v.toNumber? with
    | some n => .ok (op.holds (n.compare? literal))
    | none => .error (unexpected target literal.kind.name v)
  | reads text => .ok (v.display == text)

end Condition

def compilePatterns : List String → Except ConditionError (List CompiledPattern)
  | [] => .ok []
  | p :: rest =>
    match CompiledPattern.compileWhole p with
    | .ok q => (compilePatterns rest).map (q :: ·)
    | .error reason => .error (.invalidPattern p reason)

/-- The conditions and patterns declared on one field, of which one has to hold. -/
structure ConditionSet where
  type : ValueType
  conditions : List Condition
  patterns : List CompiledPattern

namespace ConditionSet

def readAll (type : ValueType) : List String → Except ConditionError (List Condition)
  | [] => .ok []
  | s :: rest =>
    match Condition.ofLiteral type s with
    | .ok c => (readAll type rest).map (c :: ·)
    | .error e => .error e

/-- Reads the conditions on a field. A boolean field without any has to be true; any other field
needs one at least. -/
def build (type : ValueType) (literals : List String) (patterns : List CompiledPattern) :
    Except ConditionError ConditionSet :=
  if literals.isEmpty && patterns.isEmpty then
    if type = .bool then .ok { type, conditions := [.equals (.bool true)], patterns }
    else .error (.missingConditions type.name)
  else (readAll type literals).map fun conditions => { type, conditions, patterns }

def anyMatches (target : String) (v : Value) : List Condition → Except CheckError Bool
  | [] => .ok false
  | c :: rest =>
    match c.matches? target v with
    | .ok true => .ok true
    | .ok false => anyMatches target v rest
    | .error e => .error e

/-- Whether one of the conditions or patterns holds of the live value. -/
def matches? (s : ConditionSet) (target : String) (v : Value) : Except CheckError Bool :=
  match anyMatches target v s.conditions with
  | .ok false => .ok (s.patterns.any fun p => p.matchesIn v.display)
  | outcome => outcome

end ConditionSet

end FieldGate
