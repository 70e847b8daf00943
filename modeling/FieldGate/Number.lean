import FieldGate.Number.Decimal

/-! Numbers of the five kinds that a field can hold. -/
namespace FieldGate

inductive NumberKind
  | int16 | int32 | int64 | single | double
  deriving DecidableEq, Repr

/-- A number with its kind. -/
inductive Number
  | int16 (n : Int16)
  | int32 (n : Int32)
  | int64 (n : Int64)
  | single (x : Binary)
  | double (x : Binary)
  deriving DecidableEq

/-- Why a text is no number of a kind. -/
inductive NumberError
  | integer (e : IntegerError)
  | float (e : FloatError)
  deriving DecidableEq, Repr

def NumberError.message : NumberError → String
  | integer e => e.message
  | float e => e.message

namespace NumberKind

def name : NumberKind → String
  | int16 => "i16"
  | int32 => "i32"
  | int64 => "i64"
  | single => "f32"
  | double => "f64"

end NumberKind

namespace Number

def kind : Number → NumberKind
  | int16 _ => .int16
  | int32 _ => .int32
  | int64 _ => .int64
  | single _ => .single
  | double _ => .double

def toInt? : Number → Option Int
  | int16 n => some n.toInt
  | int32 n => some n.toInt
  | int64 n => some n.toInt
  | _ => none

/-- The number in the double format. Single numbers fit exactly; integers are rounded. -/
def toDouble : Number → Binary
  | int16 n => .ofInt .double n.toInt
  | int32 n => .ofInt .double n.toInt
  | int64 n => .ofInt .double n.toInt
  | single x => x
  | double x => x

/-- Integers are compared exactly, whatever their widths; with a float, both as doubles. -/
def compare? (a b : Number) : Option Ordering :=
  match a.toInt?, b.toInt? with
  | some m, some n => some (compare m n)
  | _, _ => a.toDouble.compare? b.toDouble

def same : Number → Number → Bool
  | int16 m, int16 n => m == n
  | int32 m, int32 n => m == n
  | int64 m, int64 n => m == n
  | single x, single y => x.same y
  | double x, double y => x.same y
  | _, _ => false

def text : Number → String
  | int16 n => String.ofList (digitsOfInt n.toInt)
  | int32 n => String.ofList (digitsOfInt n.toInt)
  | int64 n => String.ofList (digitsOfInt n.toInt)
  | single x => x.text
  | double x => x.text

def read (k : NumberKind) (cs : List Char) : Except NumberError Number :=
  match k with
  | .int16 => ((readInteger .w16 cs).map fun n => int16 (.ofInt n)).mapError .integer
  | .int32 => ((readInteger .w32 cs).map fun n => int32 (.ofInt n)).mapError .integer
  | .int64 => ((readInteger .w64 cs).map fun n => int64 (.ofInt n)).mapError .integer
  | .single => ((readFloat .single cs).map single).mapError .float
  | .double => ((readFloat .double cs).map double).mapError .float

end Number

end FieldGate
