import FieldGate.Condition
import FieldGate.Entry.Table
import FieldGate.Requirement

/-! Gates: requirements whose questions are about live entries. -/
namespace FieldGate

variable [PatternEngine]

/-- An entry passed to a handler, with the reference that named it. -/
structure BoundEntry where
  entry : EntryId
  label : String
  deriving DecidableEq, Repr

/-- What a handler is called with: the value of an entry, or a literal. -/
inductive Argument
  | entry (bound : BoundEntry)
  | literal (v : Value)

/-- A call of a handler. The arguments past the fixed ones go into one list if it is variadic. -/
structure Call where
  method : MethodId
  key : String
  fixed : Nat
  variadic : Bool
  body : HandlerBody
  arguments : List Argument

/-- What the leaves of a gate ask. -/
inductive Question
  | constant (b : Bool)
  | field (label : String) (entry : EntryId) (conditions : ConditionSet)
  | call (c : Call)

abbrev Gate := Requirement Question

abbrev Live := EntryId → Option Value

namespace Argument

def read (live : Live) : Argument → Except CheckError Value
  | entry ⟨e, label⟩ =>
    match live e with
    | some v => .ok v
    | none => .error (.entryReleased label)
  | literal v => .ok v

def readAll (live : Live) : List Argument → Except CheckError (List Value)
  | [] => .ok []
  | a :: rest =>
    match a.read live with
    | .ok v => (readAll live rest).map (v :: ·)
    | .error e => .error e

end Argument

namespace Call

def pack (c : Call) (values : List Value) : List Value :=
  if c.variadic then values.take c.fixed ++ [.list (values.drop c.fixed)] else values

/-- Reads the arguments and runs the body. Without one of its entries the body is not run. -/
def answer (c : Call) (live : Live) : Except CheckError Bool :=
  match Argument.readAll live c.arguments with
  | .error e => .error e
  | .ok values => (c.body (c.pack values)).mapError (.handlerFailed c.key)

def runs (c : Call) (live : Live) : Bool := (Argument.readAll live c.arguments).isOk

end Call

namespace Question

def answer (live : Live) : Question → Except CheckError Bool
  | constant b => .ok b
  | field label e conditions =>
    match live e with
    | some v => conditions.matches? label v
    | none => .error (.entryReleased label)
  | call c => c.answer live

def invoked? (live : Live) : Question → Option MethodId
  | call c => if c.runs live then some c.method else none
  | _ => none

end Question

namespace Gate

def check (g : Gate) (live : Live) : Checked CheckError Question :=
  Requirement.check (Question.answer live) g

def outcome (g : Gate) (live : Live) : Except CheckError Bool := (Gate.check g live).outcome

/-- The handlers whose bodies a check runs, in order. -/
def invocations (g : Gate) (live : Live) : List MethodId :=
  (Gate.check g live).asked.filterMap (Question.invoked? live)

end Gate

end FieldGate
