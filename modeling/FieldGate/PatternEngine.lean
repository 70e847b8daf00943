/-! Compiled patterns. What compiles a pattern and finds its matches is a parameter of the library.
-/
namespace FieldGate

namespace PatternEngine

def truePattern : String := "(?i)^(?:1|t(?:rue)?|y(?:es)?|on|enabled?)$"

def falsePattern : String := "(?i)^(?:0|f(?:alse)?|no?|off|disabled?)$"

end PatternEngine

/-- An engine of patterns. It compiles the text of a pattern, or says why not, and tells whether a
compiled pattern matches anywhere in a text. The library goes by two patterns of its own, by which
truth values are read, and an engine has to compile these. -/
class PatternEngine where
  Code : Type
  compile : String → Except String Code
  isMatch : Code → String → Bool
  trueCode : Code
  falseCode : Code
  compile_true : compile PatternEngine.truePattern = .ok trueCode
  compile_false : compile PatternEngine.falsePattern = .ok falseCode

variable [PatternEngine]

/-- A pattern that could be compiled, with its text. -/
structure CompiledPattern where
  source : String
  code : PatternEngine.Code

namespace CompiledPattern

def compile (source : String) : Except String CompiledPattern :=
  (PatternEngine.compile source).map fun code => { source, code }

def matchesIn (p : CompiledPattern) (text : String) : Bool := PatternEngine.isMatch p.code text

def anchored (source : String) : String := "^(?:" ++ source ++ ")$"

/-- Compiles a pattern for whole texts. It must compile alone before it is anchored, so that it
cannot end the group that it is put into. -/
def compileWhole (source : String) : Except String CompiledPattern :=
  match compile source with
  | .ok _ => compile (anchored source)
  | .error e => .error e

end CompiledPattern

end FieldGate
