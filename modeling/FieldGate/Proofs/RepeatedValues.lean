import FieldGate.Handler.Builtin
import Mathlib.Data.List.Nodup
import Mathlib.Data.Quot

/-! Repeated values. Without floats, equality across kinds of numbers sorts values into classes, and
among several values two are equal exactly if a class comes up again, in whatever order. -/
namespace FieldGate

namespace Value

/-- A float, or a list with one in it at some depth. -/
inductive HasFloat : Value → Prop
  | single (x : Binary) : HasFloat (.number (.single x))
  | double (x : Binary) : HasFloat (.number (.double x))
  | list {v : Value} {items : List Value} (hv : v ∈ items) (h : HasFloat v) :
      HasFloat (.list items)

/-- What is true of every value that is no list, and of every list of values that it is true of, is
true of every value. -/
theorem induction {motive : Value → Prop} (bool : ∀ b, motive (.bool b))
    (char : ∀ c, motive (.char c)) (number : ∀ n, motive (.number n))
    (text : ∀ s, motive (.text s)) (enum : ∀ s, motive (.enum s))
    (list : ∀ items, (∀ v ∈ items, motive v) → motive (.list items))
    (object : ∀ t s, motive (.object t s)) (v : Value) : motive v :=
  match v with
  | .bool b => bool b
  | .char c => char c
  | .number n => number n
  | .text s => text s
  | .enum s => enum s
  | .list items => list items fun v _ => induction bool char number text enum list object v
  | .object t s => object t s

variable {a b : Value} {as bs : List Value}

theorem hasFloat_number_iff {n : Number} : (number n).HasFloat ↔ n.toInt? = none := by
  constructor
  · intro h
    cases h <;> rfl
  · intro h
    cases n with
    | single x => exact .single x
    | double x => exact .double x
    | int16 | int32 | int64 => cases h

theorem hasFloat_list_iff {items : List Value} :
    (list items).HasFloat ↔ ∃ v ∈ items, v.HasFloat := by
  constructor
  · intro h
    cases h with
    | list hv h => exact ⟨_, hv, h⟩
  · rintro ⟨v, hv, h⟩
    exact .list hv h

private theorem sameEach_iff (h : ∀ a ∈ as, ∀ b, a.same b = true ↔ a = b) :
    sameEach as bs = true ↔ as = bs := by
  induction as generalizing bs with
  | nil => cases bs <;> simp [sameEach]
  | cons a as ih =>
    obtain ⟨ha, has⟩ := List.forall_mem_cons.mp h
    cases bs with
    | nil => simp [sameEach]
    | cons b bs => rw [sameEach, Bool.and_eq_true_iff, ha, ih has, List.cons.injEq]

/-- Without floats, to be of one kind and content is to be one value. -/
theorem same_iff_eq (ha : ¬ a.HasFloat) : a.same b = true ↔ a = b := by
  induction a using induction generalizing b with
  | number m =>
    rw [hasFloat_number_iff] at ha
    cases m with
    | single | double => exact absurd rfl ha
    | int16 m | int32 m | int64 m =>
      cases b with
      | number n => cases n <;> simp [same, Number.same]
      | _ => simp [same]
  | list as ih =>
    cases b with
    | list bs =>
      rw [same, list.injEq]
      exact sameEach_iff fun a hmem b => ih a hmem fun h => ha (.list hmem h)
    | _ => simp [same]
  | _ => cases b <;> simp [same]

/-- What a value stands for: an integer for its number, whatever its width, and any other value for
itself. -/
def standsFor (v : Value) : Int ⊕ Value :=
  match v.toInt? with
  | some i => .inl i
  | none => .inr v

/-- Only integers and floats have a double. -/
theorem toDouble?_eq_none (ha : ¬ a.HasFloat) (hi : a.toInt? = none) : a.toDouble? = none := by
  cases a with
  | number n => exact absurd (hasFloat_number_iff.mpr hi) ha
  | _ => rfl

/-- The values without floats at any depth. -/
abbrev FloatFree := {v : Value // ¬ v.HasFloat}

end Value

namespace Builtin

open Value (FloatFree)

variable {a b : Value} {vs more : List Value}

/-- Without floats, values are equal if they stand for the same. -/
theorem valuesEqual_iff (ha : ¬ a.HasFloat) (hb : ¬ b.HasFloat) :
    valuesEqual a b = true ↔ a.standsFor = b.standsFor := by
  -- an integer and a value of another kind are not compared as doubles, so they differ
  have hne {i : Int} (hi : a.toInt? = some i) (hk : b.toInt? = none) : a ≠ b := by
    rintro rfl
    cases hi.symm.trans hk
  have hne' {k : Int} (hi : a.toInt? = none) (hk : b.toInt? = some k) : a ≠ b := by
    rintro rfl
    cases hi.symm.trans hk
  unfold valuesEqual Value.standsFor
  cases hi : a.toInt? with
  | some i =>
    cases hk : b.toInt? with
    | some k => simp
    | none => simp [Value.toDouble?_eq_none hb hk, Value.same_iff_eq ha, hne hi hk]
  | none =>
    cases hk : b.toInt? with
    | some k => simp [Value.toDouble?_eq_none ha hi, Value.same_iff_eq ha, hne' hi hk]
    | none => simp [Value.toDouble?_eq_none ha hi, Value.same_iff_eq ha]

theorem valuesEqual_integers {m n : Number} {i k : Int} (hm : m.toInt? = some i)
    (hn : n.toInt? = some k) : valuesEqual (.number m) (.number n) = true ↔ i = k := by
  have hi : (Value.number m).toInt? = some i := hm
  have hk : (Value.number n).toInt? = some k := hn
  simp [valuesEqual, hi, hk]

/-- Values without floats are sorted into classes by what they stand for. -/
theorem equivalence_valuesEqual :
    Equivalence fun a b : FloatFree => valuesEqual a b = true where
  refl a := (valuesEqual_iff a.2 a.2).mpr rfl
  symm {a b} h := (valuesEqual_iff b.2 a.2).mpr ((valuesEqual_iff a.2 b.2).mp h).symm
  trans {a b c} hab hbc := (valuesEqual_iff a.2 c.2).mpr
    (((valuesEqual_iff a.2 b.2).mp hab).trans ((valuesEqual_iff b.2 c.2).mp hbc))

/-- The classes are those of equality across kinds of numbers. -/
def alike : Setoid FloatFree := ⟨fun a b => valuesEqual a b = true, equivalence_valuesEqual⟩

/-- Each value is compared with those after it only. -/
theorem anyMatch_eq_false_iff :
    anyMatch vs = false ↔ vs.Pairwise fun a b => valuesEqual a b = false := by
  induction vs with
  | nil => simp [anyMatch]
  | cons a vs ih => simp [anyMatch, ih]

theorem anyMatch_of_sublist (hs : vs.Sublist more) (h : anyMatch vs = true) :
    anyMatch more = true := by
  by_contra hmore
  have hpairwise := anyMatch_eq_false_iff.mp (Bool.eq_false_iff.mpr hmore)
  rw [anyMatch_eq_false_iff.mpr (hpairwise.sublist hs)] at h
  cases h

/-- Without floats, no two items are found equal if no two are in one class. -/
theorem anyMatch_eq_false_iff_nodup {items : List FloatFree} :
    anyMatch items.unattach = false ↔ (items.map (Quotient.mk alike)).Nodup := by
  have hclass (a b : FloatFree) :
      valuesEqual a b = false ↔ Quotient.mk alike a ≠ Quotient.mk alike b := by
    rw [← Bool.not_eq_true, Ne, Quotient.eq]
    rfl
  rw [anyMatch_eq_false_iff, List.unattach, List.pairwise_map, List.Nodup, List.pairwise_map]
  exact List.Pairwise.iff (hclass · ·)

/-- The order of the values has no part in whether two are equal. -/
theorem anyMatch_of_perm {items others : List FloatFree} (h : items.Perm others) :
    anyMatch others.unattach = anyMatch items.unattach := by
  have hnodup := (h.map (Quotient.mk alike)).nodup_iff
  rw [← anyMatch_eq_false_iff_nodup, ← anyMatch_eq_false_iff_nodup] at hnodup
  cases hi : anyMatch items.unattach with
  | false => exact hnodup.mp hi
  | true => simpa [hi] using hnodup

/-- Without floats, equality of values is an equivalence in which integers of all widths are equal
if their numbers are. Among several values none are found equal exactly if they are in classes of
their own, wherever each of them stands, and what was found is found among more values too. -/
theorem anyMatch_finds_repeated_classes :
    (Equivalence fun a b : FloatFree => valuesEqual a b = true) ∧
    (∀ (m n : Number) (i k : Int), m.toInt? = some i → n.toInt? = some k →
      (valuesEqual (.number m) (.number n) = true ↔ i = k)) ∧
    ∀ items : List FloatFree,
      (anyMatch items.unattach = false ↔ (items.map (Quotient.mk alike)).Nodup) ∧
      (∀ others, items.Perm others → anyMatch others.unattach = anyMatch items.unattach) ∧
      ∀ more : List Value, items.unattach.Sublist more → anyMatch items.unattach = true →
        anyMatch more = true := by
  refine ⟨equivalence_valuesEqual, fun m n i k hm hn => valuesEqual_integers hm hn, ?_⟩
  intro items
  exact ⟨anyMatch_eq_false_iff_nodup, fun others h => anyMatch_of_perm h,
    fun more hs h => anyMatch_of_sublist hs h⟩

/-- Two fives of different widths with a list of a five before each of them. -/
def fives : List FloatFree :=
  [⟨.list [.number (.int16 5)], by simp [Value.hasFloat_list_iff, Value.hasFloat_number_iff,
      Number.toInt?]⟩,
   ⟨.number (.int16 5), by simp [Value.hasFloat_number_iff, Number.toInt?]⟩,
   ⟨.list [.number (.int64 5)], by simp [Value.hasFloat_list_iff, Value.hasFloat_number_iff,
      Number.toInt?]⟩,
   ⟨.number (.int64 5), by simp [Value.hasFloat_number_iff, Number.toInt?]⟩]

/-- The lists of fives are told apart, and the fives are not, whichever comes first. -/
theorem fives_match_either_way :
    anyMatch (fives.unattach.take 3) = false ∧ anyMatch fives.unattach = true ∧
      anyMatch fives.reverse.unattach = true ∧ ¬ (fives.map (Quotient.mk alike)).Nodup := by
  have hfives : anyMatch fives.unattach = true := by decide
  obtain ⟨-, -, hlists⟩ := anyMatch_finds_repeated_classes
  obtain ⟨hnodup, hperm, -⟩ := hlists fives
  refine ⟨by decide, hfives, (hperm _ fives.reverse_perm.symm).trans hfives, ?_⟩
  rw [← hnodup, hfives]
  simp

/-- With floats there are no classes: two integers that are told apart can both be equal to one
double. -/
example :
    let double : Value := .number (.double (.ofInt .double 9007199254740992))
    valuesEqual (.number (.int64 9007199254740992)) double = true ∧
      valuesEqual double (.number (.int64 9007199254740993)) = true ∧
      valuesEqual (.number (.int64 9007199254740992)) (.number (.int64 9007199254740993)) =
        false := by decide

end Builtin
end FieldGate
