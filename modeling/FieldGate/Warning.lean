/-! Warnings, and results that come with the warnings given on the way to them. -/
namespace FieldGate

/-- What is told of a build and does not stop it. -/
inductive Warning
  | ignoredConditions (owner handler : String)
  | ignoredArguments (owner target : String)
  | unresolvedVariable (name : String)
  deriving DecidableEq, Repr

def Warning.message : Warning → String
  | ignoredConditions .. => "conditions declared on a handler reference are ignored"
  | ignoredArguments .. => "handler arguments declared on a field reference are ignored"
  | unresolvedVariable _ => "unable to resolve generic handler parameter"

/-- A result or an error, with the warnings given before it. -/
structure Noted (ε α : Type) where
  warnings : List Warning
  result : Except ε α

namespace Noted

variable {ε δ α β : Type}

def ok (a : α) : Noted ε α := ⟨[], .ok a⟩

def error (e : ε) : Noted ε α := ⟨[], .error e⟩

def ofExcept (r : Except ε α) : Noted ε α := ⟨[], r⟩

def warn (w : Warning) : Noted ε Unit := ⟨[w], .ok ()⟩

def andThen (x : Noted ε α) (f : α → Noted ε β) : Noted ε β :=
  match x.result with
  | .ok a => ⟨x.warnings ++ (f a).warnings, (f a).result⟩
  | .error e => ⟨x.warnings, .error e⟩

def mapError (f : ε → δ) (x : Noted ε α) : Noted δ α := ⟨x.warnings, x.result.mapError f⟩

instance : Monad (Noted ε) where
  pure := ok
  bind := andThen

/-- Does the same with each item in turn, up to the first error. -/
def each (f : α → Noted ε β) : List α → Noted ε (List β)
  | [] => ok []
  | a :: rest => (f a).andThen fun b => (each f rest).andThen fun bs => ok (b :: bs)

end Noted

end FieldGate
