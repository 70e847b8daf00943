import FieldGate.Pattern.CharSet
import FieldGate.Proofs.CaseFolding

/-! The characters that the sets of a pattern have. -/
namespace FieldGate.Pattern

open Unicode (Ranges isWordChar sameFold)
open Unicode.Ranges (Mem Proper)

namespace CharSet

mutual

/-- Whether a character is in the set. Folded sets have what equals one of their members without
regard to case. -/
def Has : CharSet → Char → Prop
  | span lo hi, c => lo ≤ c ∧ c ≤ hi
  | table s, c => s.ranges.has c.toNat = true
  | word, c => isWordChar c = true
  | complement s, c => ¬ s.Has c
  | folded s, c => ∃ d, s.Has d ∧ sameFold d c = true
  | foldedAscii s, c => ∃ d, s.Has d ∧ d.toLower = c.toLower
  | union items, c => OneHas items c
  | intersection s t, c => s.Has c ∧ t.Has c
  | difference s t, c => s.Has c ∧ ¬ t.Has c
  | symmetricDifference s t, c => (s.Has c ∧ ¬ t.Has c) ∨ (t.Has c ∧ ¬ s.Has c)
  | bracket s, c => s.Has c

def OneHas : List CharSet → Char → Prop
  | [], _ => False
  | s :: rest, c => s.Has c ∨ OneHas rest c

end

variable {c : Char} {n : Nat}

private theorem exists_char {r : Ranges} (hr : Proper r) (h : Mem r n) :
    ∃ d : Char, d.toNat = n :=
  ⟨.ofNatAux n (hr.isValidChar h), rfl⟩

private theorem isValidChar_toNat (c : Char) : c.toNat.isValidChar := c.valid

mutual

theorem proper_ranges : (s : CharSet) → Proper s.ranges
  | span lo hi => by
    rw [ranges]
    split_ifs with h
    · have hhi := isValidChar_toNat hi
      unfold Nat.isValidChar at hhi
      exact Ranges.proper_span h (by omega)
    · exact ⟨nofun, .nil⟩
  | table s => s.proper
  | word => Unicode.proper_wordChars
  | complement s => s.proper_ranges.complement
  | folded s => Unicode.proper_foldClosure s.proper_ranges
  | foldedAscii s => Unicode.proper_foldClosureAscii s.proper_ranges
  | union items => Ranges.proper_ofList (isRange_rangesOfEach items)
  | intersection s t => s.proper_ranges.intersection t.proper_ranges
  | difference s t => s.proper_ranges.difference t.proper_ranges.ordered
  | symmetricDifference s t => s.proper_ranges.symmetricDifference t.proper_ranges
  | bracket s => s.proper_ranges

theorem isRange_rangesOfEach : (items : List CharSet) →
    ∀ p ∈ rangesOfEach items, Ranges.IsRange p
  | [] => nofun
  | s :: rest => fun p hp => (List.mem_append.mp hp).elim (s.proper_ranges.ranges p)
      (isRange_rangesOfEach rest p)

end

mutual

/-- The ranges of a set have the codes of its characters. -/
theorem mem_ranges : (s : CharSet) → (c : Char) → (Mem s.ranges c.toNat ↔ s.Has c)
  | span lo hi, c => by
    rw [ranges, Has]
    split_ifs with h
    · exact Ranges.mem_span h (isValidChar_toNat c)
    · simp only [Ranges.mem_nil, false_iff, not_and]
      exact fun hlo hhi => h (Char.le_trans hlo hhi)
  | table s, c => s.proper.ordered.has_iff.symm
  | word, c => Unicode.proper_wordChars.ordered.has_iff.symm
  | complement s, c => by
    rw [ranges, Has, Ranges.mem_complement s.proper_ranges.ordered, mem_ranges s c]
    exact and_iff_right (isValidChar_toNat c)
  | folded s, c => by
    rw [ranges, Has, Unicode.mem_foldClosure s.proper_ranges]
    constructor
    · rintro ⟨n, hn, hfold⟩
      obtain ⟨d, rfl⟩ := exists_char s.proper_ranges hn
      exact ⟨d, (mem_ranges s d).mp hn, beq_iff_eq.mpr hfold⟩
    · rintro ⟨d, hd, hfold⟩
      exact ⟨_, (mem_ranges s d).mpr hd, beq_iff_eq.mp hfold⟩
  | foldedAscii s, c => by
    rw [ranges, Has, Unicode.mem_foldClosureAscii s.proper_ranges]
    constructor
    · rintro ⟨n, hn, hfold⟩
      obtain ⟨d, rfl⟩ := exists_char s.proper_ranges hn
      exact ⟨d, (mem_ranges s d).mp hn, Unicode.toLower_eq_iff.mpr hfold⟩
    · rintro ⟨d, hd, hfold⟩
      exact ⟨_, (mem_ranges s d).mpr hd, Unicode.toLower_eq_iff.mp hfold⟩
  | union items, c => by
    rw [ranges, Has, Ranges.mem_ofList, mem_rangesOfEach items c]
  | intersection s t, c => by
    rw [ranges, Has, Ranges.mem_intersection s.proper_ranges t.proper_ranges, mem_ranges s c,
      mem_ranges t c]
  | difference s t, c => by
    rw [ranges, Has, Ranges.mem_difference s.proper_ranges.ordered t.proper_ranges.ordered,
      mem_ranges s c, mem_ranges t c]
  | symmetricDifference s t, c => by
    rw [ranges, Has, Ranges.mem_symmetricDifference s.proper_ranges t.proper_ranges, mem_ranges s c,
      mem_ranges t c]
  | bracket s, c => by rw [ranges, Has, mem_ranges s c]

theorem mem_rangesOfEach : (items : List CharSet) → (c : Char) →
    (Mem (rangesOfEach items) c.toNat ↔ OneHas items c)
  | [], c => by rw [rangesOfEach, OneHas, Ranges.mem_nil]
  | s :: rest, c => by
    rw [rangesOfEach, OneHas, Ranges.mem_append, mem_ranges s c, mem_rangesOfEach rest c]

end

/-- The search in the ranges of a set finds its characters. -/
theorem has_ranges_iff (s : CharSet) (c : Char) : s.ranges.has c.toNat = true ↔ s.Has c :=
  s.proper_ranges.ordered.has_iff.trans (s.mem_ranges c)

end CharSet

end FieldGate.Pattern
