import FieldGate.Handler.Arguments
import FieldGate.Proofs.Noted

/-! The types that values have. A literal that is read for a parameter gives a value of a type that
the parameter accepts. -/
namespace FieldGate

/-- A value is of a type. An enum value is one of the constants, a list has items of one type, and
an object names its type. -/
inductive Value.HasType : Value → ValueType → Prop
  | bool (b : Bool) : HasType (.bool b) .bool
  | char (c : Char) : HasType (.char c) .char
  | number (n : Number) : HasType (.number n) (.number n.kind)
  | text (s : String) : HasType (.text s) .text
  | enum {constant : String} {e : EnumType} (h : constant ∈ e.constants) :
      HasType (.enum constant) (.enum e)
  | list {items : List Value} {t : ValueType} (h : ∀ v ∈ items, HasType v t) :
      HasType (.list items) (.list t)
  | object (name text : String) : HasType (.object name text) (.object name)

/-- A value is of a type that the parameter accepts. -/
def ParamType.Takes (p : ParamType) (v : Value) : Prop :=
  ∃ t, v.HasType t ∧ p.accepts t = true

variable {v : Value} {t u : ValueType} {p : ParamType} {literal : String}

/-- A value is numeric or not, whatever of its types is looked at. -/
theorem Value.HasType.isNumeric_eq (h : v.HasType t) (h' : v.HasType u) :
    t.isNumeric = u.isNumeric := by
  cases h <;> cases h' <;> rfl

theorem Number.kind_of_read {k : NumberKind} {cs : List Char} {n : Number}
    (h : Number.read k cs = .ok n) : n.kind = k := by
  cases k <;>
  · obtain ⟨_, -, rfl⟩ := map_eq_ok_iff.mp (mapError_eq_ok_iff.mp h)
    rfl

private theorem accepts_erase (p : ParamType) (t : ValueType) :
    p.erase.accepts t = p.accepts t := by
  cases p with
  | generic name bound => cases bound <;> rfl
  | _ => rfl

variable [PatternEngine]

/-- A literal of a type is read as a value of the type. -/
theorem Literal.hasType_of_read (h : Literal.read t literal = .ok v) : v.HasType t := by
  cases t with
  | bool =>
    obtain ⟨b, -, rfl⟩ := map_eq_ok_iff.mp h
    exact .bool b
  | char =>
    obtain ⟨c, -, rfl⟩ := map_eq_ok_iff.mp h
    exact .char c
  | number k =>
    obtain ⟨n, hn, rfl⟩ := map_eq_ok_iff.mp h
    rw [← Number.kind_of_read (mapError_eq_ok_iff.mp hn)]
    exact .number n
  | text =>
    cases h
    exact .text literal
  | enum e =>
    obtain ⟨constant, hconstant, rfl⟩ := map_eq_ok_iff.mp h
    unfold readConstant at hconstant
    split at hconstant
    · rename_i hmem
      cases hconstant
      exact .enum (List.contains_iff_mem.mp hmem)
    · cases hconstant
  | list _ | object _ => cases h

/-- A literal of a parameter is read as a value that the parameter takes. -/
theorem Signature.takes_of_readLiteral (h : readLiteral p literal = .ok v) : p.Takes v := by
  have herase : p.erase.Takes v := by
    unfold readLiteral at h
    split at h
    · rename_i t heq
      rw [heq]
      exact ⟨t, Literal.hasType_of_read h, decide_eq_true rfl⟩
    · rename_i heq
      rw [heq]
      dsimp only at h
      split at h <;> cases h <;> exact ⟨_, .number _, rfl⟩
    · rename_i hexact hnumber
      cases h
      refine ⟨.text, .text literal, ?_⟩
      have hany : p.erase = .any := by
        cases p with
        | exact t => exact absurd rfl (hexact t)
        | number => exact absurd rfl hnumber
        | any => rfl
        | generic name bound =>
          cases bound with
          | any => rfl
          | number => exact absurd rfl hnumber
      rw [hany]
      rfl
  obtain ⟨t, ht, haccepts⟩ := herase
  exact ⟨t, ht, (accepts_erase p t).symm.trans haccepts⟩

end FieldGate
