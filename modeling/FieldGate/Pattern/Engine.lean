import FieldGate.Pattern.Layout
import FieldGate.Pattern.Marking
import FieldGate.Pattern.Truth
import FieldGate.Unicode.Membership

/-! An engine that finds matches by marks. Of the properties of characters it knows the general
categories, alphabetic characters, blanks and ASCII; scripts, ages and further properties it does
not know, and refuses patterns that ask for them. Why it refuses a pattern is not told. -/
namespace FieldGate.Pattern

open Unicode (Category CodeSet)

def plainName (cs : List Char) : String :=
  String.ofList <| (cs.filter fun c =>
    c != ' ' && c != '_' && c != '-' && c.toNat ≤ 0x7F).map Char.toLower

/-- A property name without an `is` before it. What is left of `isc` still means `other`. -/
def propertyName (cs : List Char) : String :=
  match cs with
  | i :: s :: rest => if i.toLower == 'i' && s.toLower == 's' then plainName rest else plainName cs
  | _ => plainName cs

def codesOf (cs : List Category) : CodeSet :=
  { ranges := Category.rangesOf cs, proper := Category.proper_rangesOf cs }

def knownProperty? (name : List Char) : Option CodeSet :=
  match propertyName name with
  | "alphabetic" | "alpha" =>
    some { ranges := Unicode.alphabetics, proper := Unicode.proper_alphabetics }
  | "whitespace" | "wspace" | "space" =>
    some { ranges := Unicode.whiteSpace, proper := Unicode.proper_whiteSpace }
  | "ascii" => some Unicode.asciiCodes
  | n => (Category.ofName? n).map codesOf

def knownValue? (name value : List Char) : Option CodeSet :=
  match propertyName name with
  | "gc" | "generalcategory" => (Category.ofName? (propertyName value)).map codesOf
  | _ => none

/-- Parts of a pattern may be nested so deeply. -/
def depthLimit : Nat := 250

def Tree.isSmall (t : Tree) : Bool :=
  t.depth ≤ depthLimit && t.form.hasRoom .forward && t.form.hasRoom .backward

namespace Engine

scoped instance : Dialect where
  property? := knownProperty?
  propertyValue? := knownValue?
  fits t := t.isSmall = true

def compile? (source : String) : Option Tree := (parse? source.toList).filter Tree.isSmall

private theorem isSmall_truth : Tree.truth.isSmall = true := by decide +kernel

private theorem isSmall_falsehood : Tree.falsehood.isSmall = true := by decide +kernel

theorem compile?_truePattern : compile? PatternEngine.truePattern = some .truth := by
  rw [compile?, parse?_truePattern, Option.filter_some, if_pos isSmall_truth]

theorem compile?_falsePattern : compile? PatternEngine.falsePattern = some .falsehood := by
  rw [compile?, parse?_falsePattern, Option.filter_some, if_pos isSmall_falsehood]

def markingOf (source : String) : Except String Marking :=
  match compile? source with
  | some t => .ok t.marking
  | none => .error "<regex>"

/-- A text compiles if it is read and its tree is small enough, and to the marking of the tree. -/
theorem markingOf_eq_ok_iff {source : String} {m : Marking} : markingOf source = .ok m ↔
    ∃ t, parse? source.toList = some t ∧ t.isSmall = true ∧ t.marking = m := by
  unfold markingOf compile?
  cases parse? source.toList with
  | none => simp
  | some t => by_cases hsmall : t.isSmall = true <;> simp [Option.filter_some, hsmall]

scoped instance : PatternEngine where
  Code := Marking
  compile := markingOf
  isMatch m text := m.search none text.toList
  trueCode := Tree.truth.marking
  falseCode := Tree.falsehood.marking
  compile_true := by rw [markingOf, compile?_truePattern]
  compile_false := by rw [markingOf, compile?_falsePattern]

end Engine

end FieldGate.Pattern
