import FieldGate.Number
import FieldGate.Text

/-! Types and live values of fields. -/
namespace FieldGate

/-- A named choice among constants, in the order of their declaration. -/
structure EnumType where
  name : String
  constants : List String
  deriving DecidableEq, Repr

/-- The declared type of a field. An object is known by the name of its type only. -/
inductive ValueType
  | bool
  | char
  | number (kind : NumberKind)
  | text
  | enum (type : EnumType)
  | list (element : ValueType)
  | object (name : String)
  deriving DecidableEq, Repr

namespace ValueType

def isNumeric : ValueType → Bool
  | number _ => true
  | _ => false

def name : ValueType → String
  | bool => "bool"
  | char => "char"
  | number k => k.name
  | text => "String"
  | enum e => e.name
  | list element => "List<" ++ element.name ++ ">"
  | object name => name

end ValueType

/-- A live value. An enum value is the name of the chosen constant; an object has a type name and
a text that stands for it. -/
inductive Value
  | bool (b : Bool)
  | char (c : Char)
  | number (n : Number)
  | text (s : String)
  | enum (constant : String)
  | list (items : List Value)
  | object (typeName text : String)

namespace Value

def kindName : Value → String
  | bool _ => "bool"
  | char _ => "char"
  | number n => n.kind.name
  | text _ => "String"
  | enum _ => "enum"
  | list _ => "List"
  | object typeName _ => typeName

def toBool? : Value → Option Bool
  | bool b => some b
  | _ => none

def toNumber? : Value → Option Number
  | number n => some n
  | _ => none

def toInt? (v : Value) : Option Int := v.toNumber?.bind Number.toInt?

def toDouble? (v : Value) : Option Binary := v.toNumber?.map Number.toDouble

/-- The characters of a text or the name of a constant. -/
def toText? : Value → Option String
  | text s => some s
  | enum s => some s
  | _ => none

mutual

def display : Value → String
  | bool b => if b then "true" else "false"
  | char c => String.singleton c
  | number n => n.text
  | text s => s
  | enum s => s
  | list items => "[" ++ Text.join ", " (displayEach items) ++ "]"
  | object _ s => s

def displayEach : List Value → List String
  | [] => []
  | v :: rest => v.display :: displayEach rest

end

mutual

/-- Equality of kind and content. Floats are equal as numbers are, so `nan` is not equal to itself
and the two zeros are. -/
def same : Value → Value → Bool
  | bool a, bool b => a == b
  | char a, char b => a == b
  | number a, number b => a.same b
  | text a, text b => a == b
  | enum a, enum b => a == b
  | list a, list b => sameEach a b
  | object t a, object u b => t == u && a == b
  | _, _ => false

def sameEach : List Value → List Value → Bool
  | [], [] => true
  | a :: as, b :: bs => a.same b && sameEach as bs
  | _, _ => false

end

def sameKind : Value → Value → Bool
  | bool _, bool _ => true
  | char _, char _ => true
  | number a, number b => a.kind == b.kind
  | text _, text _ => true
  | enum _, enum _ => true
  | list _, list _ => true
  | object .., object .. => true
  | _, _ => false

end Value

end FieldGate
