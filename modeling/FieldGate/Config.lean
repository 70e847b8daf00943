import FieldGate.Document.Toml

/-! How strictly declarations are taken. -/
namespace FieldGate

/-- Whether conditions on a handler are an error, whether handlers may take any number of
arguments, and whether blanks around a reference are ignored. -/
structure Config where
  strictHandlerConditions : Bool := false
  allowVariadicHandlers : Bool := true
  trimReferences : Bool := true
  deriving DecidableEq, Repr

namespace Config

def strict : Config :=
  { strictHandlerConditions := true, allowVariadicHandlers := false, trimReferences := false }

def flag? (es : Document.Toml.Entries) (key : String) (default : Bool) : Option Bool :=
  match es.get? key with
  | none => some default
  | some (.bool b) => some b
  | some _ => none

/-- Reads a TOML document. What is missing keeps its default and unknown keys are ignored. -/
def ofToml? (text : String) : Option Config := do
  let es ← Document.Toml.parse? text.toList
  let d : Config := {}
  return {
    strictHandlerConditions := ← flag? es "strict_handler_conditions" d.strictHandlerConditions
    allowVariadicHandlers := ← flag? es "allow_variadic_handlers" d.allowVariadicHandlers
    trimReferences := ← flag? es "trim_references" d.trimReferences }

end Config

end FieldGate
