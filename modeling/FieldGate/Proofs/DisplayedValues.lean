import FieldGate.Proofs.BooleanSpellings
import FieldGate.Proofs.LiteralTypes
import FieldGate.Proofs.NumberConditions

/-! Values and the texts that they are shown as. Floats, lists and objects apart, the text of a
value is read as that value, and as a condition it holds of no other value of the type. -/
namespace FieldGate

/-- The types whose values are written out in full where they are shown. -/
inductive ValueType.Exact : ValueType → Prop
  | bool : Exact .bool
  | char : Exact .char
  | integer (w : IntegerWidth) : Exact (.number w.kind)
  | text : Exact .text
  | enum (e : EnumType) : Exact (.enum e)

namespace IntegerWidth

variable {w : IntegerWidth} {i k : Int} {n : Number}

/-- The numbers of an integer kind are those of the integers that fit the width. -/
theorem exists_number (h : n.kind = w.kind) : ∃ i, w.Fits i ∧ w.number i = n := by
  cases w with
  | w16 =>
    cases n with
    | int16 x => exact ⟨x.toInt, ⟨x.le_toInt, x.toInt_lt⟩, congrArg Number.int16 x.ofInt_toInt⟩
    | _ => cases h
  | w32 =>
    cases n with
    | int32 x => exact ⟨x.toInt, ⟨x.le_toInt, x.toInt_lt⟩, congrArg Number.int32 x.ofInt_toInt⟩
    | _ => cases h
  | w64 =>
    cases n with
    | int64 x => exact ⟨x.toInt, ⟨x.le_toInt, x.toInt_lt⟩, congrArg Number.int64 x.ofInt_toInt⟩
    | _ => cases h

theorem number_inj (hi : w.Fits i) (hk : w.Fits k) : w.number i = w.number k ↔ i = k := by
  refine ⟨fun h => ?_, congrArg w.number⟩
  have hsome := toInt?_number hi
  rw [h, toInt?_number hk] at hsome
  exact (Option.some.inj hsome).symm

theorem text_number (h : w.Fits i) : (w.number i).text = String.ofList (digitsOfInt i) := by
  have hi := toInt?_number h
  cases w <;> exact congrArg (String.ofList ∘ digitsOfInt) (Option.some.inj hi)

end IntegerWidth

section Readings

variable {v x : Value} {t : ValueType} {w : IntegerWidth} {i : Int}

theorem Value.HasType.exists_integer (h : v.HasType (.number w.kind)) :
    ∃ i, w.Fits i ∧ v = .number (w.number i) := by
  generalize hkind : ValueType.number w.kind = t at h
  cases h with
  | number n =>
    obtain ⟨i, hfits, rfl⟩ := IntegerWidth.exists_number (ValueType.number.inj hkind).symm
    exact ⟨i, hfits, rfl⟩
  | _ => cases hkind

private theorem display_integer (h : w.Fits i) :
    (Value.number (w.number i)).display = String.ofList (digitsOfInt i) := by
  rw [Value.display, IntegerWidth.text_number h]

private theorem read_digits (h : w.Fits i) :
    Number.read w.kind (digitsOfInt i) = .ok (w.number i) :=
  IntegerWidth.read_eq_ok_iff.mpr ⟨i, ⟨isDecimal_digitsOfInt i, h⟩, rfl⟩

/-- The text of a value is read as the value. For truth values the engine has to be standard. -/
theorem Literal.read_display [PatternEngine] [Pattern.Dialect]
    (hstandard : t = .bool → PatternEngine.IsStandard) (ht : t.Exact) (hv : v.HasType t) :
    Literal.read t v.display = .ok v := by
  cases ht with
  | bool =>
    cases hv with
    | bool b =>
      have hread : readBool (Value.bool b).display = .ok b := by
        cases b with
        | false => exact (readBool_eq_false_iff (hstandard rfl) "false").mpr (by decide)
        | true => exact (readBool_eq_true_iff (hstandard rfl) "true").mpr (by decide)
      rw [read, hread]
      rfl
  | char =>
    cases hv with
    | char c => simp [read, readChar, Value.display, Except.map]
  | integer w =>
    obtain ⟨i, hfits, rfl⟩ := hv.exists_integer
    rw [display_integer hfits, read, readNumber, String.toList_ofList, read_digits hfits]
    rfl
  | text =>
    cases hv with
    | text s => rfl
  | enum e =>
    cases hv with
    | enum hmem => simp [read, readConstant, Value.display, hmem, Except.map]

namespace Condition

/-- Digits are a condition on being equal: there is no operator in them and no blank. -/
theorem ofNumber_digits (h : w.Fits i) :
    ofNumber w.kind (String.ofList (digitsOfInt i)) = .ok (.compares .equal (w.number i)) := by
  have hspelling := isDecimal_digitsOfInt i
  have hsplit : Comparison.split (Text.withoutBlanks (String.ofList (digitsOfInt i)).toList) =
      (.equal, digitsOfInt i) := by
    rw [String.toList_ofList, Text.withoutBlanks_eq_self hspelling.isBlank_of_mem]
    exact Comparison.split_append none hspelling.head?_notMem
  exact ofNumber_of_ok hsplit (read_digits h)

/-- A condition holds of one value of the type and of no other one. -/
def Singles (c : Condition) (t : ValueType) (v : Value) : Prop :=
  ∀ x, x.HasType t → ∀ target, ∃ b, c.matches? target x = .ok b ∧ (b = true ↔ x = v)

theorem singles_integer (h : w.Fits i) :
    (compares .equal (w.number i)).Singles (.number w.kind) (.number (w.number i)) := by
  intro x hx target
  obtain ⟨k, hfits, rfl⟩ := hx.exists_integer
  refine ⟨_, matches?_compares (IntegerWidth.toInt?_number h) (IntegerWidth.toInt?_number hfits)
    target, ?_⟩
  rw [Comparison.holds_compare_iff, Value.number.injEq, IntegerWidth.number_inj hfits h]
  rfl

theorem singles_equals (ht : t = .bool ∨ t = .char ∨ ∃ e, t = .enum e) (hv : v.HasType t) :
    (equals v).Singles t v := by
  intro x hx target
  have hsame : v.sameKind x = true ∧ (v.same x = true ↔ x = v) := by
    rcases ht with rfl | rfl | ⟨e, rfl⟩
    all_goals
      cases hv
      cases hx
      refine ⟨rfl, ?_⟩
      simp only [Value.same, beq_iff_eq, Value.bool.injEq, Value.char.injEq, Value.enum.injEq]
      exact eq_comm
  exact ⟨_, if_pos hsame.1, hsame.2⟩

theorem singles_reads (hv : v.HasType .text) : (reads v.display).Singles .text v := by
  intro x hx target
  cases hv
  cases hx
  exact ⟨_, rfl, beq_iff_eq.trans (Value.text.injEq ..).symm.to_iff⟩

/-- As a condition, the text of a value holds of that value only. -/
theorem exists_singles [PatternEngine] [Pattern.Dialect]
    (hstandard : t = .bool → PatternEngine.IsStandard) (ht : t.Exact) (hv : v.HasType t) :
    ∃ c, ofLiteral t v.display = .ok c ∧ c.Singles t v := by
  have hread := Literal.read_display hstandard ht hv
  cases ht with
  | bool => exact ⟨_, map_eq_ok_iff.mpr ⟨v, hread, rfl⟩, singles_equals (.inl rfl) hv⟩
  | char => exact ⟨_, map_eq_ok_iff.mpr ⟨v, hread, rfl⟩, singles_equals (.inr (.inl rfl)) hv⟩
  | enum e =>
    exact ⟨_, map_eq_ok_iff.mpr ⟨v, hread, rfl⟩, singles_equals (.inr (.inr ⟨e, rfl⟩)) hv⟩
  | integer w =>
    obtain ⟨i, hfits, rfl⟩ := hv.exists_integer
    rw [display_integer hfits]
    exact ⟨_, ofNumber_digits hfits, singles_integer hfits⟩
  | text => exact ⟨_, rfl, singles_reads hv⟩

end Condition

/-- The text of a value is read as the value, and as a condition it has an answer for every value of
the type and holds of that one only. -/
theorem displayed_value_reads_back [PatternEngine] [Pattern.Dialect]
    (hstandard : t = .bool → PatternEngine.IsStandard) (ht : t.Exact) (hv : v.HasType t) :
    Literal.read t v.display = .ok v ∧
      ∃ c, Condition.ofLiteral t v.display = .ok c ∧
        ∀ x, x.HasType t → ∀ target, ∃ b, c.matches? target x = .ok b ∧ (b = true ↔ x = v) :=
  ⟨Literal.read_display hstandard ht hv, Condition.exists_singles hstandard ht hv⟩

open scoped Pattern.Engine

/-- False is read back, and so is the least integer of 64 bits, whose text is no condition that the
greatest one meets. -/
theorem false_and_least_integer_read_back :
    Literal.read .bool "false" = .ok (.bool false) ∧
    Literal.read (.number .int64) "-9223372036854775808" =
        .ok (.number (.int64 (-9223372036854775808))) ∧
      ∃ c, Condition.ofLiteral (.number .int64) "-9223372036854775808" = .ok c ∧
        c.matches? "slider" (.number (.int64 9223372036854775807)) = .ok false := by
  obtain ⟨hfalse, -⟩ :=
    displayed_value_reads_back (fun _ => Pattern.Engine.isStandard) .bool (.bool false)
  obtain ⟨hread, c, hc, hmatches⟩ :=
    displayed_value_reads_back (fun _ => Pattern.Engine.isStandard) (.integer .w64)
      (.number (.int64 (-9223372036854775808)))
  obtain ⟨b, hb, hiff⟩ := hmatches (.number (.int64 9223372036854775807)) (.number _) "slider"
  obtain rfl : b = false := Bool.eq_false_iff.mpr (mt hiff.mp (by simp))
  exact ⟨hfalse, hread, c, hc, hb⟩

end Readings

end FieldGate
