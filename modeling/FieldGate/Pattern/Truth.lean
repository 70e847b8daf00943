import FieldGate.Pattern.Parser
import FieldGate.PatternEngine

/-! The patterns by which truth values are read, taken apart. -/
namespace FieldGate.Pattern

namespace Tree

def letter (c : Char) : Tree := set (.folded (.char c))

def word (cs : List Char) : Tree := concat (cs.map letter)

def optional (t : Tree) : Tree := repeated t 0 (some 1) false

/-- A choice for all of a text, behind the flags, which leave an empty part. -/
def choiceForAll (branches : List Tree) : Tree :=
  concat [empty, look .start, group none (alternate branches), look .stop]

def truth : Tree :=
  choiceForAll [letter '1',
    concat [letter 't', optional (group none (word ['r', 'u', 'e']))],
    concat [letter 'y', optional (group none (word ['e', 's']))],
    word ['o', 'n'],
    concat (['e', 'n', 'a', 'b', 'l', 'e'].map letter ++ [optional (letter 'd')])]

def falsehood : Tree :=
  choiceForAll [letter '0',
    concat [letter 'f', optional (group none (word ['a', 'l', 's', 'e']))],
    concat [letter 'n', optional (letter 'o')],
    word ['o', 'f', 'f'],
    concat (['d', 'i', 's', 'a', 'b', 'l', 'e'].map letter ++ [optional (letter 'd')])]

end Tree

theorem parse?_truePattern [Dialect] :
    parse? PatternEngine.truePattern.toList = some .truth := rfl

theorem parse?_falsePattern [Dialect] :
    parse? PatternEngine.falsePattern.toList = some .falsehood := rfl

end FieldGate.Pattern
