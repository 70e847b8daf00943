/-! Binary floating-point numbers as exact values: rounding to a format, order and equality. -/
namespace FieldGate

/-- A binary floating-point number. A finite one is `± mantissa * 2 ^ exponent`; zero has a sign. -/
inductive Binary
  | nan
  | infinite (negative : Bool)
  | finite (negative : Bool) (mantissa : Nat) (exponent : Int)
  deriving DecidableEq, Repr

/-- The shape of a format: digits of the mantissa, exponent of the least positive number, and the
power of two that is just too large. -/
structure BinaryFormat where
  precision : Nat
  minExponent : Int
  top : Nat
  deriving DecidableEq, Repr

namespace BinaryFormat

def single : BinaryFormat := ⟨24, -149, 128⟩

def double : BinaryFormat := ⟨53, -1074, 1024⟩

end BinaryFormat

/-- A quotient rounded to the nearest natural number, a half to the even neighbour. -/
def roundQuotient (num den : Nat) : Nat :=
  let q := num / den
  let twice := 2 * (num % den)
  if twice < den then q
  else if den < twice then q + 1
  else if q % 2 = 0 then q else q + 1

def floorLog2 (num den : Nat) : Int :=
  let k : Int := (num.log2 : Int) - den.log2
  if num * Nat.pow 2 (-k).toNat < den * Nat.pow 2 k.toNat then k - 1 else k

namespace Binary

/-- The number of the format nearest to `± num / den`; ties go to the even mantissa, and what is
too large becomes infinite. -/
def ofQuotient (f : BinaryFormat) (negative : Bool) (num den : Nat) : Binary :=
  if num = 0 then finite negative 0 f.minExponent
  else
    let e := max f.minExponent (floorLog2 num den - f.precision + 1)
    let m := roundQuotient (num * Nat.pow 2 (-e).toNat) (den * Nat.pow 2 e.toNat)
    let (m, e) := if m = Nat.pow 2 f.precision then (Nat.pow 2 (f.precision - 1), e + 1) else (m, e)
    if (f.top : Int) - f.precision < e then infinite negative else finite negative m e

def ofInt (f : BinaryFormat) (n : Int) : Binary := ofQuotient f (n < 0) n.natAbs 1

def scaled (mantissa : Nat) (exponent target : Int) : Nat :=
  mantissa * Nat.pow 2 (exponent - target).toNat

def signed (negative : Bool) (n : Nat) : Int := if negative then -n else n

/-- The order of two numbers, if they have one: nothing is ordered with `nan`, and the two zeros
are equal. -/
def compare? : Binary → Binary → Option Ordering
  | nan, _ => none
  | _, nan => none
  | infinite a, infinite b =>
    some (if a = b then .eq else if a then .lt else .gt)
  | infinite a, finite .. => some (if a then .lt else .gt)
  | finite .., infinite b => some (if b then .gt else .lt)
  | finite a m e, finite b n k =>
    let t := min e k
    some (compare (signed a (scaled m e t)) (signed b (scaled n k t)))

def same (a b : Binary) : Bool := a.compare? b == some .eq

/-- A finite number of the format with as many digits of the mantissa as it has room for. -/
def normalize (f : BinaryFormat) (m : Nat) (e : Int) : Nat × Int :=
  if m = 0 then (0, f.minExponent)
  else
    let e' := max f.minExponent (e + m.log2 - f.precision + 1)
    if e' ≤ e then (m * Nat.pow 2 (e - e').toNat, e')
    else (m / Nat.pow 2 (e' - e).toNat, e')

end Binary

end FieldGate
