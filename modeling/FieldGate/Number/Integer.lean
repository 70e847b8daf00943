/-! Reading and writing integers of a fixed width in decimal. -/
namespace FieldGate

/-- Widths of signed integers, in bits. -/
inductive IntegerWidth
  | w16 | w32 | w64
  deriving DecidableEq, Repr

namespace IntegerWidth

def bits : IntegerWidth → Nat
  | w16 => 16
  | w32 => 32
  | w64 => 64

/-- One more than the greatest integer of the width, and the size of the least one. -/
def limit (w : IntegerWidth) : Nat := Nat.pow 2 (w.bits - 1)

def Fits (w : IntegerWidth) (n : Int) : Prop := -(w.limit : Int) ≤ n ∧ n < w.limit

instance (w : IntegerWidth) (n : Int) : Decidable (w.Fits n) :=
  inferInstanceAs (Decidable (_ ∧ _))

end IntegerWidth

/-- Why a text is no integer of a width. -/
inductive IntegerError
  | empty
  | invalidDigit
  | tooLarge
  | tooSmall
  deriving DecidableEq, Repr

def IntegerError.message : IntegerError → String
  | empty => "cannot parse integer from empty string"
  | invalidDigit => "invalid digit found in string"
  | tooLarge => "number too large to fit in target type"
  | tooSmall => "number too small to fit in target type"

/-- Appends decimal digits to a number. A character that is no digit is refused as `invalidDigit`
and a number that passes the bound as `overflow`, whichever comes first in the text. -/
def readDigits (bound : Nat) (overflow : IntegerError) :
    Nat → List Char → Except IntegerError Nat
  | n, [] => .ok n
  | n, c :: rest =>
    if !c.isDigit then .error .invalidDigit
    else if bound < 10 * n + (c.toNat - '0'.toNat) then .error overflow
    else readDigits bound overflow (10 * n + (c.toNat - '0'.toNat)) rest

def readMagnitude (bound : Nat) (overflow : IntegerError) :
    List Char → Except IntegerError Nat
  | [] => .error .invalidDigit
  | digits => readDigits bound overflow 0 digits

/-- Reads an integer of the width: an optional sign, then digits and nothing else. -/
def readInteger (w : IntegerWidth) : List Char → Except IntegerError Int
  | [] => .error .empty
  | '-' :: digits => (readMagnitude w.limit .tooSmall digits).map fun n => -(n : Int)
  | '+' :: digits => (readMagnitude (w.limit - 1) .tooLarge digits).map fun n => (n : Int)
  | digits => (readMagnitude (w.limit - 1) .tooLarge digits).map fun n => (n : Int)

def digitsOfNat (n : Nat) : List Char := Nat.toDigits 10 n

def digitsOfInt : Int → List Char
  | .ofNat n => digitsOfNat n
  | .negSucc n => '-' :: digitsOfNat (n + 1)

end FieldGate
