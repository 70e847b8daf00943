import FieldGate.Unicode.Properties

/-! Conditions of a pattern on a position of a text. -/
namespace FieldGate.Pattern

/-- A condition on a position that reads no character. Words are made of ASCII characters only, or
of any. -/
inductive Look
  | start
  | stop
  | lineStart (crlf : Bool)
  | lineStop (crlf : Bool)
  | wordBoundary (ascii : Bool)
  | notWordBoundary (ascii : Bool)
  | wordStart (ascii : Bool)
  | wordStop (ascii : Bool)
  | wordStartHalf (ascii : Bool)
  | wordStopHalf (ascii : Bool)
  deriving DecidableEq, Repr

namespace Look

/-- Whether the condition holds between a character and the next one; either may be missing. -/
def holds (before after : Option Char) : Look → Bool
  | start => before.isNone
  | stop => after.isNone
  | lineStart false => before.isNone || before == some '\n'
  | lineStop false => after.isNone || after == some '\n'
  | lineStart true =>
    before.isNone || before == some '\n' || (before == some '\r' && after != some '\n')
  | lineStop true =>
    after.isNone || after == some '\r' || (after == some '\n' && before != some '\r')
  | wordBoundary ascii => inWord ascii before != inWord ascii after
  | notWordBoundary ascii => inWord ascii before == inWord ascii after
  | wordStart ascii => !inWord ascii before && inWord ascii after
  | wordStop ascii => inWord ascii before && !inWord ascii after
  | wordStartHalf ascii => !inWord ascii before
  | wordStopHalf ascii => !inWord ascii after
where
  inWord (ascii : Bool) : Option Char → Bool
    | some c => if ascii then c.isAlphanum || c == '_' else Unicode.isWordChar c
    | none => false

end Look

end FieldGate.Pattern
