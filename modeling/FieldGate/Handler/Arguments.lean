import FieldGate.Condition.Literal
import FieldGate.Signature
import FieldGate.Warning

/-! Checking the arguments of a handler against its signature: the types of entries and the texts
of literals after them. -/
namespace FieldGate

variable [PatternEngine]

/-- What is wrong with the arguments of a call. -/
inductive ArgumentDefect
  | tooFew (least found : Nat)
  | wrongCount (expected found : Nat)
  | incompatibleUses (name : String) (previous : ParamType) (type : ValueType)
  | notAssignable (type : ValueType) (element : ParamType)
  | incompatibleVariadic (previous : ParamType) (type : ValueType)
  | mismatch (position : Nat) (expected : ParamType) (found : ValueType)
  | literal (position : Nat) (error : ConditionError)
  deriving DecidableEq, Repr

def ArgumentDefect.text : ArgumentDefect → String
  | tooFew least found =>
    "Insufficient argument count: expected at least " ++ toString least ++ ", found " ++
      toString found
  | wrongCount expected found =>
    "Incorrect argument count: expected " ++ toString expected ++ ", found " ++ toString found
  | incompatibleUses name previous type =>
    "Incompatible types used for " ++ name ++ " (" ++ previous.name ++ " & " ++ type.name ++ ")"
  | notAssignable type element =>
    "Incorrect type used in varargs: " ++ type.name ++ " is not assignable to " ++ element.name
  | incompatibleVariadic previous type =>
    "Incompatible types used in varargs (" ++ previous.name ++ " & " ++ type.name ++ ")"
  | mismatch position expected found =>
    "[" ++ toString position ++ "]: Expected `" ++ expected.name ++ "` found `" ++ found.name ++ "`"
  | literal position error => "[" ++ toString position ++ "]: " ++ error.message

abbrev Bindings := List (String × ParamType)

namespace Bindings

def get? (b : Bindings) (name : String) : Option ParamType := b.lookup name

def set (b : Bindings) (name : String) (p : ParamType) : Bindings := (name, p) :: b

end Bindings

namespace Signature

/-- Lets the variable of a parameter take in the type of its argument. A type that its bound does
not accept is left for the check of positions. -/
def bindOne (b : Bindings) : ParamType → ValueType → Bindings × List ArgumentDefect
  | .generic name bound, type =>
    if !bound.accepts type then (b, [])
    else match b.get? name with
      | none => (b.set name (.exact type), [])
      | some previous =>
        match previous.join? type with
        | some joined => (b.set name joined, [])
        | none => (b, [.incompatibleUses name previous type])
  | _, _ => (b, [])

def bindFixed (b : Bindings) :
    List ParamType → List ValueType → Bindings × List ArgumentDefect
  | p :: params, t :: types =>
    let (b, defects) := bindOne b p t
    let (b, more) := bindFixed b params types
    (b, defects ++ more)
  | _, _ => (b, [])

/-- What one more entry in variadic position makes of the common type of those before it. Without
a common type a variable keeps its type, and a declared element type covers both. -/
def joinVariadic (element : ParamType) (common : Option ParamType) (type : ValueType) :
    Option ParamType × List ArgumentDefect :=
  if !element.accepts type then (common, [.notAssignable type element])
  else match common with
    | none => (some (.exact type), [])
    | some previous =>
      match previous.join? type, element with
      | some joined, _ => (some joined, [])
      | none, .generic .. => (some previous, [.incompatibleVariadic previous type])
      | none, _ => (some element.erase, [])

def inferVariadic (element : ParamType) (common : Option ParamType) :
    List ValueType → Option ParamType × List ArgumentDefect
  | [] => (common, [])
  | t :: types =>
    let (common, defects) := joinVariadic element common t
    let (common, more) := inferVariadic element common types
    (common, defects ++ more)

/-- The type of the variadic positions: what their variable already stands for, else what the
entries there have in common, else the declared element. The variable is bound on the way. -/
def resolveVariadic (b : Bindings) (element : ParamType) (types : List ValueType) :
    ParamType × Bindings × List ArgumentDefect :=
  match element with
  | .generic name _ =>
    match b.get? name with
    | some p => (p, b, [])
    | none =>
      match inferVariadic element none types with
      | (some p, defects) => (p, b.set name p, defects)
      | (none, defects) => (element.erase, b, defects)
  | _ =>
    let (common, defects) := inferVariadic element none types
    (common.getD element, b, defects)

/-- The type of a fixed parameter. A variable without a binding gives a warning and counts as its
bound. -/
def resolveFixed (b : Bindings) : ParamType → ParamType × List Warning
  | .generic name bound =>
    match b.get? name with
    | some p => (p, [])
    | none => (bound.toParam, [.unresolvedVariable name])
  | p => (p, [])

/-- Reads a literal for a parameter. A number is an integer of the widest kind if it can be. -/
def readLiteral (p : ParamType) (literal : String) : Except ConditionError Value :=
  match p.erase with
  | .exact type => Literal.read type literal
  | .number =>
    let trimmed := Text.trim literal.toList
    match Number.read .int64 trimmed, Number.read .double trimmed with
    | .ok n, _ => .ok (.number n)
    | .error _, .ok n => .ok (.number n)
    | .error _, .error e => .error (.invalidNumber literal "number" e)
  | _ => .ok (.text literal)

def checkEntries (position : Nat) : List ParamType → List ValueType → List ArgumentDefect
  | p :: params, t :: types =>
    (if p.accepts t then [] else [.mismatch position p t]) ++
      checkEntries (position + 1) params types
  | _, _ => []

def checkLiterals (position : Nat) :
    List ParamType → List String → List Value × List ArgumentDefect
  | p :: params, s :: literals =>
    let (values, defects) := checkLiterals (position + 1) params literals
    match readLiteral p s with
    | .ok v => (v :: values, defects)
    | .error e => (values, .literal position e :: defects)
  | _, _ => ([], [])

/-- The defect of an argument count that the signature does not admit. -/
def countDefect (s : Signature) (count : Nat) : ArgumentDefect :=
  if s.isVariadic then .tooFew s.params.length count else .wrongCount s.params.length count

/-- The types of all positions, with the defects and warnings found on the way. -/
def positions (s : Signature) (types : List ValueType) (count : Nat) :
    List ParamType × List ArgumentDefect × List Warning :=
  let (b, defects) := bindFixed [] s.params types
  let (tail, b, more) := match s.variadic with
    | some element =>
      let (p, b, more) := resolveVariadic b element (types.drop s.params.length)
      (List.replicate (count - s.params.length) p, b, more)
    | none => ([], b, [])
  let fixed := s.params.map (resolveFixed b)
  (fixed.map (·.1) ++ tail, defects ++ more, fixed.flatMap (·.2))

/-- Checks a call with entries of the given types and literals after them. Either all literals are
read, or every defect is given; a wrong number of arguments is given alone. -/
def checkArguments (s : Signature) (types : List ValueType) (literals : List String) :
    Noted (List ArgumentDefect) (List Value) :=
  let count := types.length + literals.length
  if !s.admits count then .error [s.countDefect count]
  else
    let (params, defects, warnings) := s.positions types count
    let (values, bad) := checkLiterals types.length (params.drop types.length) literals
    let all := defects ++ checkEntries 0 params types ++ bad
    ⟨warnings, if all.isEmpty then .ok values else .error all⟩

end Signature

end FieldGate
