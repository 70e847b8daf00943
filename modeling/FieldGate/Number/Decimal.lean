import FieldGate.Number.Integer
import FieldGate.Number.Binary

/-! Decimal text of binary floating-point numbers: reading rounds to the nearest number of the
format, writing uses the fewest places that read back. -/
namespace FieldGate

/-- Why a text is no decimal number. -/
inductive FloatError
  | empty
  | invalid
  deriving DecidableEq, Repr

def FloatError.message : FloatError → String
  | empty => "cannot parse float from empty string"
  | invalid => "invalid float literal"

/-- A decimal `± digits * 10 ^ exponent`, or one of the words for what is no finite number. -/
inductive Decimal
  | nan
  | infinite (negative : Bool)
  | finite (negative : Bool) (digits : Nat) (exponent : Int)
  deriving DecidableEq, Repr

namespace Decimal

def natOfDigits (cs : List Char) : Nat := Nat.ofDigitChars 10 cs 0

def readExponent? (cs : List Char) : Option Int :=
  let (negative, digits) := match cs with
    | '-' :: ds => (true, ds)
    | '+' :: ds => (false, ds)
    | ds => (false, ds)
  if digits.isEmpty || !digits.all Char.isDigit then none
  else some (Binary.signed negative (natOfDigits digits))

/-- Digits with an optional point among, before or after them, then an optional exponent. -/
def readFinite? (negative : Bool) (cs : List Char) : Option Decimal :=
  let whole := cs.takeWhile Char.isDigit
  let rest := cs.dropWhile Char.isDigit
  let (fraction, rest) := match rest with
    | '.' :: r => (r.takeWhile Char.isDigit, r.dropWhile Char.isDigit)
    | r => ([], r)
  if whole.isEmpty && fraction.isEmpty then none
  else
    let number (e : Int) := finite negative (natOfDigits (whole ++ fraction)) (e - fraction.length)
    match rest with
    | [] => some (number 0)
    | c :: r => if c == 'e' || c == 'E' then (readExponent? r).map number else none

def readWord? (negative : Bool) (cs : List Char) : Option Decimal :=
  match String.ofList (cs.map Char.toLower) with
  | "nan" => some nan
  | "inf" | "infinity" => some (infinite negative)
  | _ => none

def read? (cs : List Char) : Option Decimal :=
  let (negative, body) := match cs with
    | '-' :: r => (true, r)
    | '+' :: r => (false, r)
    | r => (false, r)
  (readFinite? negative body).orElse fun _ => readWord? negative body

/-- Decimals at or above `10 ^ 400` or below `10 ^ -400` lie outside every format, so their powers
of ten are never formed. -/
def reach : Nat := 400

def toBinary (f : BinaryFormat) : Decimal → Binary
  | nan => .nan
  | infinite s => .infinite s
  | finite s digits e =>
    let size : Int := (digitsOfNat digits).length
    if digits = 0 || e + size < -reach then .finite s 0 f.minExponent
    else if (reach : Int) < e + size then .infinite s
    else .ofQuotient f s (digits * Nat.pow 10 e.toNat) (Nat.pow 10 (-e).toNat)

end Decimal

def readFloat (f : BinaryFormat) (cs : List Char) : Except FloatError Binary :=
  if cs.isEmpty then .error .empty
  else match Decimal.read? cs with
    | some d => .ok (d.toBinary f)
    | none => .error .invalid

namespace Binary

/-- The bounds, over the denominator `4 * den`, of the interval that rounds to the number
`m / den`. Below a power of two the gap is half as wide, unless the exponent is the least. -/
def roundingInterval (f : BinaryFormat) (m : Nat) (e : Int) : Nat × Nat :=
  let below := if m = Nat.pow 2 (f.precision - 1) ∧ f.minExponent < e then 1 else 2
  (4 * m - below, 4 * m + 2)

/-- Whether a grid point `n / 10 ^ places` rounds to the number `m / den`. -/
def roundsTo (m : Nat) (bounds : Nat × Nat) (den places n : Nat) : Bool :=
  let x := 4 * n * den
  let (lo, hi) := (bounds.1 * Nat.pow 10 places, bounds.2 * Nat.pow 10 places)
  if m % 2 = 0 then lo ≤ x && x ≤ hi else lo < x && x < hi

/-- The first grid of at least `places` decimal places that has a point rounding to `m / den`,
with the nearest such point; of two equally near the upper one. -/
def shortestFrom (m : Nat) (bounds : Nat × Nat) (den : Nat) : Nat → Nat → Nat × Nat
  | 0, places => (m * Nat.pow 10 places / den, places)
  | fuel + 1, places =>
    let n := m * Nat.pow 10 places / den
    let r := m * Nat.pow 10 places % den
    let low := roundsTo m bounds den places n
    let high := roundsTo m bounds den places (n + 1)
    if low && (!high || 2 * r < den) then (n, places)
    else if high then (n + 1, places)
    else shortestFrom m bounds den fuel (places + 1)

def placePoint (n places : Nat) : List Char :=
  let fraction := digitsOfNat (n % Nat.pow 10 places)
  digitsOfNat (n / Nat.pow 10 places) ++ '.' ::
    (List.replicate (places - fraction.length) '0' ++ fraction)

/-- The text of a positive number: without a fraction all its digits and `.0`, else the fewest
places that read back in the format. A number `m / 2 ^ k` has no more than `k` places. -/
def magnitudeText (f : BinaryFormat) (m : Nat) (e : Int) : List Char :=
  if m % Nat.pow 2 (-e).toNat = 0 then
    digitsOfNat (m * Nat.pow 2 e.toNat / Nat.pow 2 (-e).toNat) ++ ['.', '0']
  else
    let (m, e) := normalize f m e
    let k := (-e).toNat
    let (n, places) := shortestFrom m (roundingInterval f m e) (Nat.pow 2 k) k 1
    placePoint n places

/-- The decimal text of a number, as one of the double format. -/
def text : Binary → String
  | nan => "NaN"
  | infinite false => "inf"
  | infinite true => "-inf"
  | finite s m e =>
    String.ofList ((if s then ['-'] else []) ++ magnitudeText .double m e)

end Binary

end FieldGate
