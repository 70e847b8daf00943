import FieldGate.Pattern.Tree

/-! What the syntax of patterns leaves open. -/
namespace FieldGate.Pattern

open Unicode (CodeSet)

/-- The properties that patterns can ask for by name, or by name and value, with the characters that
have them, and which patterns are not too large. -/
class Dialect where
  property? : List Char → Option CodeSet
  propertyValue? : List Char → List Char → Option CodeSet
  fits : Tree → Prop

end FieldGate.Pattern
