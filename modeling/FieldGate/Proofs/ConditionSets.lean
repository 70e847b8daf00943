import FieldGate.Condition
import FieldGate.Pattern.Engine
import FieldGate.Proofs.LiteralTypes

/-! Conditions declared together. All of them are for the type of one field, so a value that one of
them cannot be compared with is one that none of them can, and their order has no part in the
answer. -/
namespace FieldGate

namespace ValueType

/-- Whether a value is of the kind of a type. A number of any kind is of the kind of a number
type. -/
def admits : ValueType → Value → Bool
  | bool, .bool _ => true
  | char, .char _ => true
  | number _, .number _ => true
  | text, .text _ => true
  | enum _, .enum _ => true
  | list _, .list _ => true
  | object _, .object .. => true
  | _, _ => false

/-- Whether the conditions for a type can be compared with a value: with one of its kind, or, if the
type has no literals to be read, with any. -/
def compares (t : ValueType) (v : Value) : Bool := !Literal.isReadable t || t.admits v

theorem compares_of_admits {t : ValueType} {v : Value} (h : t.admits v = true) :
    t.compares v = true := by
  rw [compares, h, Bool.or_true]

def kindName : ValueType → String
  | bool => "bool"
  | char => "char"
  | number k => k.name
  | text => "String"
  | enum _ => "enum"
  | list _ => "List"
  | object name => name

end ValueType

section Kinds

variable {expected : Value} {t : ValueType}

theorem Value.HasType.kindName_eq (h : expected.HasType t) : expected.kindName = t.kindName := by
  cases h <;> rfl

/-- Numbers apart, values are of one kind if one is of the kind of the type of the other. -/
theorem Value.HasType.sameKind_eq (h : expected.HasType t) (hn : t.isNumeric = false) (v : Value) :
    expected.sameKind v = t.admits v := by
  cases h <;> cases v <;> first | rfl | cases hn

end Kinds

namespace Condition

variable {c : Condition} {t : ValueType} {v : Value} {literal : String}

/-- A condition is for a type if it is on being a value of the type, on a number of the kind or, if
the type has no literals to be read, on the text. -/
inductive IsFor : Condition → ValueType → Prop
  | equals {expected : Value} {t : ValueType} (h : expected.HasType t) (hn : t.isNumeric = false)
      (hr : Literal.isReadable t = true) : IsFor (.equals expected) t
  | compares (op : Comparison) (n : Number) : IsFor (.compares op n) (.number n.kind)
  | reads {t : ValueType} (text : String) (hr : Literal.isReadable t = false) :
      IsFor (.reads text) t

/-- The conditions that are read for a type are for it. -/
theorem isFor_of_ofLiteral [PatternEngine] (h : ofLiteral t literal = .ok c) : c.IsFor t := by
  cases t with
  | bool | char | enum e =>
    obtain ⟨expected, hread, rfl⟩ := map_eq_ok_iff.mp h
    exact .equals (Literal.hasType_of_read hread) rfl rfl
  | number kind =>
    change ofNumber kind literal = .ok c at h
    rw [ofNumber] at h
    dsimp only at h
    split at h
    · rename_i n hread
      cases h
      rw [← Number.kind_of_read hread]
      exact .compares _ n
    · cases h
  | text | list element | object name =>
    cases h
    exact .reads literal rfl

/-- A condition has an answer for the values that it can be compared with. -/
theorem IsFor.exists_matches? (h : c.IsFor t) (hv : t.compares v = true) (target : String) :
    ∃ b, c.matches? target v = .ok b := by
  cases h with
  | equals hexpected hn hr =>
    rw [ValueType.compares, hr, Bool.not_true, Bool.false_or, ← hexpected.sameKind_eq hn] at hv
    exact ⟨_, if_pos hv⟩
  | compares op n =>
    cases v with
    | number m => exact ⟨_, rfl⟩
    | _ => cases hv
  | reads text hr => exact ⟨_, rfl⟩

/-- For all other values the error is that of the type, whatever the condition. -/
theorem IsFor.matches?_eq_error (h : c.IsFor t) (hv : t.compares v = false) (target : String) :
    c.matches? target v = .error (.unexpectedValue target t.kindName v.kindName) := by
  cases h with
  | equals hexpected hn hr =>
    rw [ValueType.compares, hr, Bool.not_true, Bool.false_or, ← hexpected.sameKind_eq hn] at hv
    rw [matches?, hv, ← hexpected.kindName_eq]
    rfl
  | compares op n =>
    cases v with
    | number m => cases hv
    | _ => rfl
  | reads text hr =>
    rw [ValueType.compares, hr] at hv
    cases hv

end Condition

namespace ConditionSet

section Engine

variable {cs : List Condition} {target : String} {v : Value}

/-- Conditions that all have an answer are tried until one holds. -/
theorem anyMatches_eq_ok (h : ∀ c ∈ cs, ∃ b, c.matches? target v = .ok b) :
    ∃ b, anyMatches target v cs = .ok b ∧
      (b = true ↔ ∃ c ∈ cs, c.matches? target v = .ok true) := by
  induction cs with
  | nil => exact ⟨false, rfl, by simp⟩
  | cons c cs ih =>
    obtain ⟨⟨b, hb⟩, hcs⟩ := List.forall_mem_cons.mp h
    rw [anyMatches, hb]
    cases b with
    | true => exact ⟨true, rfl, by simp [hb]⟩
    | false =>
      obtain ⟨b, hany, hiff⟩ := ih hcs
      exact ⟨b, hany, by simp [hb, hiff]⟩

variable [PatternEngine] {type : ValueType} {literals : List String}
  {patterns : List CompiledPattern} {s : ConditionSet} {c : Condition} {e : CheckError}

/-- The conditions of a field: one for each literal, and if neither literals nor patterns are
declared on a boolean, that it is true. -/
def Declares (type : ValueType) (literals : List String) (patterns : List CompiledPattern)
    (c : Condition) : Prop :=
  (∃ literal ∈ literals, Condition.ofLiteral type literal = .ok c) ∨
    literals = [] ∧ patterns = [] ∧ type = .bool ∧ c = .equals (.bool true)

theorem Declares.isFor (h : Declares type literals patterns c) : c.IsFor type := by
  rcases h with ⟨literal, -, hread⟩ | ⟨-, -, rfl, rfl⟩
  · exact Condition.isFor_of_ofLiteral hread
  · exact .equals (.bool true) rfl rfl

theorem readAll_eq_mapM (type : ValueType) (literals : List String) :
    readAll type literals = literals.mapM (Condition.ofLiteral type) := by
  induction literals with
  | nil => rfl
  | cons literal literals ih =>
    rw [readAll, List.mapM_cons, ih]
    cases Condition.ofLiteral type literal with
    | error e => rfl
    | ok c => cases literals.mapM (Condition.ofLiteral type) <;> rfl

/-- Conditions can be built of literals that can all be read, if there are any or they are not
needed. -/
theorem exists_build_iff : (∃ s, build type literals patterns = .ok s) ↔
    (literals = [] → patterns = [] → type = .bool) ∧
      ∀ literal ∈ literals, ∃ c, Condition.ofLiteral type literal = .ok c := by
  rw [build]
  by_cases hnone : literals = [] ∧ patterns = []
  · obtain ⟨rfl, rfl⟩ := hnone
    by_cases hbool : type = .bool <;> simp [hbool]
  · rw [if_neg (by simpa [List.isEmpty_iff] using hnone), readAll_eq_mapM,
      ← exists_forall₂_iff]
    simp only [map_eq_ok_iff, mapM_eq_ok_iff]
    constructor
    · intro h
      obtain ⟨s, cs, hcs, -⟩ := h
      exact ⟨fun hl hp => absurd ⟨hl, hp⟩ hnone, cs, hcs⟩
    · intro h
      obtain ⟨-, cs, hcs⟩ := h
      exact ⟨_, cs, hcs, rfl⟩

/-- What is built are the conditions of the field and the patterns. -/
theorem build_spec (h : build type literals patterns = .ok s) :
    s.patterns = patterns ∧ ∀ c, c ∈ s.conditions ↔ Declares type literals patterns c := by
  rw [build] at h
  by_cases hnone : literals = [] ∧ patterns = []
  · obtain ⟨rfl, rfl⟩ := hnone
    by_cases hbool : type = .bool
    · simp only [hbool, List.isEmpty_nil, Bool.and_self, if_true] at h
      cases h
      simp [Declares, hbool]
    · simp [hbool] at h
  · rw [if_neg (by simpa [List.isEmpty_iff] using hnone), readAll_eq_mapM] at h
    obtain ⟨cs, hcs, rfl⟩ := map_eq_ok_iff.mp h
    refine ⟨rfl, fun c => ?_⟩
    constructor
    · intro hc
      exact .inl (exists_of_mem_mapM hcs hc)
    · intro hc
      rcases hc with ⟨literal, hliteral, hread⟩ | ⟨hl, hp, -⟩
      · obtain ⟨c', hc', hread'⟩ := exists_right_of_mem (mapM_eq_ok_iff.mp hcs) hliteral
        cases hread.symm.trans hread'
        exact hc'
      · exact absurd ⟨hl, hp⟩ hnone

/-- A set whose conditions all have an answer says whether a condition or a pattern holds. -/
theorem matches?_eq_ok (h : ∀ c ∈ s.conditions, ∃ b, c.matches? target v = .ok b) :
    ∃ b, s.matches? target v = .ok b ∧
      (b = true ↔ (∃ c ∈ s.conditions, c.matches? target v = .ok true) ∨
        ∃ p ∈ s.patterns, p.matchesIn v.display = true) := by
  obtain ⟨b, hany, hiff⟩ := anyMatches_eq_ok h
  rw [matches?, hany, ← hiff]
  cases b with
  | true => exact ⟨true, rfl, by simp⟩
  | false => exact ⟨_, rfl, by simp⟩

/-- A set whose conditions all fail alike fails as they do. -/
theorem matches?_eq_error (hne : s.conditions ≠ [])
    (h : ∀ c ∈ s.conditions, c.matches? target v = .error e) : s.matches? target v = .error e := by
  obtain ⟨c, cs, hcs⟩ := List.exists_cons_of_ne_nil hne
  rw [hcs] at h
  rw [matches?, hcs, anyMatches, h c List.mem_cons_self]

/-- A set of conditions fails if there is one and the value cannot be compared with it, and is the
disjunction of its conditions and patterns otherwise. -/
theorem matches?_cases (h : build type literals patterns = .ok s) (target : String) (v : Value) :
    ((∃ c, Declares type literals patterns c) ∧ type.compares v = false ∧
        s.matches? target v = .error (.unexpectedValue target type.kindName v.kindName)) ∨
      ((∀ c, Declares type literals patterns c → type.compares v = true) ∧
        ∃ b, s.matches? target v = .ok b ∧
          (b = true ↔ (∃ c, Declares type literals patterns c ∧ c.matches? target v = .ok true) ∨
            ∃ p ∈ patterns, p.matchesIn v.display = true)) := by
  obtain ⟨hpatterns, hconditions⟩ := build_spec h
  by_cases hfails : (∃ c, Declares type literals patterns c) ∧ type.compares v = false
  · obtain ⟨⟨c, hc⟩, hv⟩ := hfails
    refine .inl ⟨⟨c, hc⟩, hv, matches?_eq_error ?_ ?_⟩
    · exact List.ne_nil_of_mem ((hconditions c).mpr hc)
    · intro c' hc'
      exact ((hconditions c').mp hc').isFor.matches?_eq_error hv target
  · have hcompares : ∀ c, Declares type literals patterns c → type.compares v = true := by
      intro c hc
      exact (Bool.not_eq_false _).mp fun hv => hfails ⟨⟨c, hc⟩, hv⟩
    have hanswer : ∀ c ∈ s.conditions, ∃ b, c.matches? target v = .ok b := by
      intro c hc
      have hdeclares := (hconditions c).mp hc
      exact hdeclares.isFor.exists_matches? (hcompares c hdeclares) target
    obtain ⟨b, hb, hiff⟩ := matches?_eq_ok hanswer
    simp only [hpatterns, hconditions] at hiff
    exact .inr ⟨hcompares, b, hb, hiff⟩

section Rearranged

variable {literals' : List String} {patterns' : List CompiledPattern}
  (hl : ∀ literal, literal ∈ literals' ↔ literal ∈ literals)
  (hp : ∀ p, p ∈ patterns' ↔ p ∈ patterns)
include hl hp

private theorem none_declared_iff :
    literals' = [] ∧ patterns' = [] ↔ literals = [] ∧ patterns = [] := by
  simp only [List.eq_nil_iff_forall_not_mem, hl, hp]

/-- What conditions a field has does not depend on the order of literals and patterns, nor on how
often one is declared. -/
theorem declares_iff : Declares type literals' patterns' c ↔ Declares type literals patterns c := by
  simp only [Declares, hl, ← and_assoc, none_declared_iff hl hp]

theorem exists_build_rearranged (h : build type literals patterns = .ok s) :
    ∃ s', build type literals' patterns' = .ok s' := by
  obtain ⟨hnone, hread⟩ := exists_build_iff.mp ⟨s, h⟩
  apply exists_build_iff.mpr
  constructor
  · intro hliterals hpatterns
    obtain ⟨hliterals, hpatterns⟩ := (none_declared_iff hl hp).mp ⟨hliterals, hpatterns⟩
    exact hnone hliterals hpatterns
  · intro literal hliteral
    exact hread literal ((hl literal).mp hliteral)

theorem matches?_rearranged {s' : ConditionSet} (h : build type literals patterns = .ok s)
    (h' : build type literals' patterns' = .ok s') (target : String) (v : Value) :
    s'.matches? target v = s.matches? target v := by
  have hcases' := matches?_cases h' target v
  simp only [declares_iff hl hp, hp] at hcases'
  rcases matches?_cases h target v with ⟨⟨c, hc⟩, hv, herror⟩ | ⟨hall, b, hb, hiff⟩
  · rcases hcases' with ⟨-, -, herror'⟩ | ⟨hall', -⟩
    · rw [herror, herror']
    · rw [hall' c hc] at hv
      cases hv
  · rcases hcases' with ⟨⟨c, hc⟩, hv, -⟩ | ⟨-, b', hb', hiff'⟩
    · rw [hall c hc] at hv
      cases hv
    · rw [hb, hb', Bool.eq_iff_iff.mpr (hiff'.trans hiff.symm)]

end Rearranged

/-- Conditions and patterns are a plain disjunction: a set fails only if it has a condition and the
value is of a kind that its conditions cannot be compared with, otherwise it says whether one of
them, by itself, holds, and it is the same in any order and with any repetition. -/
theorem matches?_disjunction (h : build type literals patterns = .ok s) :
    (∀ target v e, s.matches? target v = .error e ↔
      (∃ c, Declares type literals patterns c) ∧ type.compares v = false ∧
        e = .unexpectedValue target type.kindName v.kindName) ∧
    (∀ target v, ¬ ((∃ c, Declares type literals patterns c) ∧ type.compares v = false) →
      ∃ b, s.matches? target v = .ok b ∧
        (b = true ↔ (∃ c, Declares type literals patterns c ∧ c.matches? target v = .ok true) ∨
          ∃ p ∈ patterns, p.matchesIn v.display = true)) ∧
    ∀ literals' patterns', (∀ literal, literal ∈ literals' ↔ literal ∈ literals) →
      (∀ p, p ∈ patterns' ↔ p ∈ patterns) →
      ∃ s', build type literals' patterns' = .ok s' ∧
        ∀ target v, s'.matches? target v = s.matches? target v := by
  refine ⟨?_, ?_, ?_⟩
  · intro target v e
    rcases matches?_cases h target v with ⟨hc, hv, herror⟩ | ⟨hall, b, hb, -⟩
    · rw [herror, Except.error.injEq]
      exact ⟨fun he => ⟨hc, hv, he.symm⟩, fun he => he.2.2.symm⟩
    · rw [hb]
      constructor
      · intro he
        cases he
      · intro he
        obtain ⟨⟨c, hc⟩, hv, -⟩ := he
        rw [hall c hc] at hv
        cases hv
  · intro target v hcompares
    rcases matches?_cases h target v with ⟨hc, hv, -⟩ | ⟨-, hanswer⟩
    · exact absurd ⟨hc, hv⟩ hcompares
    · exact hanswer
  · intro literals' patterns' hl hp
    obtain ⟨s', h'⟩ := exists_build_rearranged hl hp h
    exact ⟨s', h', matches?_rearranged hl hp h h'⟩

end Engine

open scoped Pattern.Engine

/-- One of two keys is asked for: no switch is a key, and it makes no difference which one is named
first. -/
theorem one_of_two_keys :
    ∃ s, build .char ["a", "b"] [] = .ok s ∧
      s.matches? "key" (.bool true) = .error (.unexpectedValue "key" "char" "bool") ∧
      s.matches? "key" (.char 'b') = .ok true ∧
      ∃ s', build .char ["b", "a", "b"] [] = .ok s' ∧
        ∀ target v, s'.matches? target v = s.matches? target v := by
  have h : build .char ["a", "b"] [] =
      .ok ⟨.char, [.equals (.char 'a'), .equals (.char 'b')], []⟩ := rfl
  have hdisjunction := matches?_disjunction h
  refine ⟨_, h, ?_, rfl, ?_⟩
  · exact (hdisjunction.1 "key" (.bool true) _).mpr
      ⟨⟨.equals (.char 'a'), .inl ⟨"a", by simp, rfl⟩⟩, rfl, rfl⟩
  · apply hdisjunction.2.2 ["b", "a", "b"] []
    · intro literal
      simp only [List.mem_cons, List.not_mem_nil, or_false]
      tauto
    · simp

end ConditionSet
end FieldGate
