import FieldGate.Pattern.Parser
import FieldGate.PatternEngine
import FieldGate.Proofs.Spans

/-! What is taken for granted of an engine of patterns: that it keeps to their syntax and meaning.
-/
namespace FieldGate

open Pattern (Dialect Tree parse?)

/-- An engine is standard for a dialect if it compiles the patterns that can be read in it and are
not too large, and finds a match where a pattern can match some part of the text. -/
structure PatternEngine.IsStandard [PatternEngine] [Dialect] : Prop where
  compiles_iff (source : String) : (∃ code, PatternEngine.compile source = .ok code) ↔
    ∃ t, parse? source.toList = some t ∧ Dialect.fits t
  isMatch_iff {source : String} {code : PatternEngine.Code} {t : Tree}
    (hcode : PatternEngine.compile source = .ok code) (ht : parse? source.toList = some t)
    (text : String) : PatternEngine.isMatch code text = true ↔ t.MatchesIn text.toList

end FieldGate
