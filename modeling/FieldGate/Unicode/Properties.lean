import FieldGate.Unicode.Additions
import FieldGate.Unicode.Category

/-! The character properties that names, blanks and words are defined by. Names go by Unicode 17,
words and pattern classes by Unicode 16. -/
namespace FieldGate.Unicode

def isBlank (c : Char) : Bool := whiteSpace.has c.toNat

def isAlphabetic (c : Char) : Bool :=
  Category.anyHas (.letterNumber :: Category.letters) c || otherAlphabetic.has c.toNat ||
    addedAlphabetic.has c.toNat

def isNumeric (c : Char) : Bool := Category.anyHas Category.numbers c || addedNumbers.has c.toNat

def isAlphanumeric (c : Char) : Bool := isAlphabetic c || isNumeric c

theorem isAlphanumeric_of_isAlphabetic {c : Char} (h : isAlphabetic c = true) :
    isAlphanumeric c = true := by
  simp [isAlphanumeric, h]

def alphabetics : Ranges :=
  .union otherAlphabetic (Category.rangesOf (.letterNumber :: Category.letters))

/-- The characters of words: alphabetic ones, marks, decimal digits, connectors and joiners. -/
def wordChars : Ranges :=
  .ofList (alphabetics ++ joinControls ++
    Category.rangesOf (.decimalDigit :: .connectorPunctuation :: Category.marks))

def isWordChar (c : Char) : Bool := wordChars.has c.toNat

def asciiCodes : CodeSet := { ranges := [(0x00, 0x7F)] }

end FieldGate.Unicode
