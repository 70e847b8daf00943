import FieldGate.Condition.Literal
import FieldGate.Proofs.FinitePatterns
import FieldGate.Proofs.Marks
import FieldGate.Proofs.StandardEngine

/-! The spellings of truth values. They are compared by simple case folding, which takes two signs
beside the capital letters for ASCII ones: the long s for an s, and the Kelvin sign for a k, which
no spelling has. -/
namespace FieldGate

namespace Unicode

variable {n m : Nat}

private theorem run_of_target_lt : ∀ r ∈ foldRuns, r.target < 128 →
    (r.first = 65 ∧ r.last = 90 ∧ r.target = 97) ∨
      (r.first = 0x17F ∧ r.last = 0x17F ∧ r.target = 115) ∨
      (r.first = 0x212A ∧ r.last = 0x212A ∧ r.target = 107) := by
  -- only a capital letter, the long s and the Kelvin sign fold to an ASCII character
  decide +kernel

private theorem run_of_first_lt : ∀ r ∈ foldRuns, r.first < 128 →
    r.first = 65 ∧ r.last = 90 ∧ r.target = 97 := by
  decide +kernel

private theorem capitals_mem_foldRuns : ⟨65, 90, 1, 97⟩ ∈ foldRuns := by
  unfold foldRuns
  exact List.mem_cons_self

theorem foldCode_ascii (h : n < 128) : foldCode n = asciiFold n := by
  unfold foldCode asciiFold
  split
  · rename_i r hr
    have hcovers := List.find?_some hr
    simp only [FoldRun.covers, Bool.and_eq_true, decide_eq_true_eq] at hcovers
    have hrun := run_of_first_lt r (List.mem_of_find?_eq_some hr) (by omega)
    rw [if_pos (by omega)]
    omega
  · rename_i hnone
    have hcapital := List.find?_eq_none.mp hnone _ capitals_mem_foldRuns
    rw [if_neg]
    simpa [FoldRun.covers, Nat.mod_one] using hcapital

/-- The characters that fold to one that is ASCII and no capital letter. -/
theorem foldCode_eq_iff (hm : m < 128) (hsmall : ¬ (65 ≤ m ∧ m ≤ 90)) :
    foldCode n = m ↔ n = m ∨ (65 ≤ n ∧ n ≤ 90 ∧ n + 32 = m) ∨ (n = 0x17F ∧ m = 115) ∨
      (n = 0x212A ∧ m = 107) := by
  constructor
  · intro h
    unfold foldCode at h
    split at h
    · rename_i r hr
      have hcovers := List.find?_some hr
      simp only [FoldRun.covers, Bool.and_eq_true, decide_eq_true_eq] at hcovers
      have hrun := run_of_target_lt r (List.mem_of_find?_eq_some hr) (by omega)
      omega
    · exact .inl h
  · rintro (rfl | ⟨hlow, hhigh, rfl⟩ | ⟨rfl, rfl⟩ | ⟨rfl, rfl⟩)
    · rw [foldCode_ascii hm, asciiFold, if_neg hsmall]
    · rw [foldCode_ascii (by omega), asciiFold, if_pos ⟨hlow, hhigh⟩]
    · decide +kernel
    · decide +kernel

end Unicode

namespace Literal

open Pattern

def trueSpellings : List String := ["1", "t", "true", "y", "yes", "on", "enable", "enabled"]

def falseSpellings : List String := ["0", "f", "false", "n", "no", "off", "disable", "disabled"]

variable {s c : Char} {ss cs : List Char} {spellings : List String}

def withPlainS (cs : List Char) : List Char := cs.map fun c => if c = 'ſ' then 's' else c

/-- Equality with a text in small letters, ignoring the case of ASCII letters only. -/
def IgnoringCase (cs : List Char) (s : String) : Prop := cs.map Char.toLower = s.toList

instance (cs : List Char) (s : String) : Decidable (IgnoringCase cs s) :=
  inferInstanceAs (Decidable (_ = _))

def IsPlain (c : Char) : Prop := c.toNat < 128 ∧ ¬ (65 ≤ c.toNat ∧ c.toNat ≤ 90) ∧ c.toNat ≠ 107

instance (c : Char) : Decidable (IsPlain c) := inferInstanceAs (Decidable (_ ∧ _))

private theorem sameFold_iff (hs : IsPlain s) (c : Char) :
    Unicode.sameFold s c = true ↔ (if c = 'ſ' then 's' else c).toLower = s := by
  obtain ⟨hascii, hsmall, hk⟩ := hs
  rw [Unicode.sameFold, beq_iff_eq, Unicode.foldCode_ascii hascii, Unicode.asciiFold,
    if_neg hsmall, eq_comm, Unicode.foldCode_eq_iff hascii hsmall, ← Char.toNat_inj,
    Unicode.toNat_toLower, Unicode.asciiFold]
  by_cases hc : c = 'ſ'
  · subst hc
    have hlong : 'ſ'.toNat = 0x17F := rfl
    have hplain : 's'.toNat = 115 := rfl
    rw [if_pos rfl, hlong, hplain, if_neg (by omega)]
    omega
  · have hne : c.toNat ≠ 0x17F := fun h => hc (Char.toNat_inj.mp h)
    rw [if_neg hc]
    split <;> omega

private theorem has_letter_iff (hs : IsPlain s) (c : Char) :
    (CharSet.folded (.char s)).Has c ↔ (if c = 'ſ' then 's' else c).toLower = s := by
  rw [← sameFold_iff hs]
  constructor
  · rintro ⟨d, ⟨hlow, hhigh⟩, hfold⟩
    obtain rfl := Char.le_antisymm hhigh hlow
    exact hfold
  · exact fun h => ⟨s, ⟨Char.le_refl s, Char.le_refl s⟩, h⟩

private theorem reads_letters_iff (hs : ∀ c ∈ ss, IsPlain c) :
    List.Forall₂ CharSet.Has (ss.map fun c => .folded (.char c)) cs ↔
      (withPlainS cs).map Char.toLower = ss := by
  induction ss generalizing cs with
  | nil => cases cs <;> simp [withPlainS]
  | cons s ss ih =>
    obtain ⟨hs, hss⟩ := List.forall_mem_cons.mp hs
    cases cs with
    | nil => simp [withPlainS]
    | cons c cs =>
      have ih : List.Forall₂ CharSet.Has (ss.map fun c => .folded (.char c)) cs ↔ _ := ih hss
      rw [List.map_cons, List.forall₂_cons, has_letter_iff hs, ih]
      simp [withPlainS]

private theorem isPlain_true : ∀ s ∈ trueSpellings, ∀ c ∈ s.toList, IsPlain c := by
  have hall : (trueSpellings.all fun s => s.toList.all fun c => IsPlain c) = true := by decide
  simpa only [List.all_eq_true, decide_eq_true_iff] using hall

private theorem isPlain_false : ∀ s ∈ falseSpellings, ∀ c ∈ s.toList, IsPlain c := by
  have hall : (falseSpellings.all fun s => s.toList.all fun c => IsPlain c) = true := by decide
  simpa only [List.all_eq_true, decide_eq_true_iff] using hall

private theorem ne_of_spellings : ∀ s ∈ trueSpellings, ∀ s' ∈ falseSpellings, s ≠ s' := by
  decide

def lettersOf (s : String) : List CharSet := s.toList.map fun c => .folded (.char c)

private theorem matchesIn_choiceForAll_iff {branches : List Tree}
    (hreadings : Tree.readingsOfAny? branches = some (spellings.map lettersOf))
    (hplain : ∀ s ∈ spellings, ∀ c ∈ s.toList, IsPlain c) :
    (Tree.choiceForAll branches).MatchesIn cs ↔
      ∃ s ∈ spellings, IgnoringCase (withPlainS cs) s := by
  simp only [Tree.MatchesIn, Tree.choiceForAll, Tree.spans, Tree.spansInTurn, Relation.comp_eq,
    Relation.eq_comp]
  rw [comp_start_stop_iff (Tree.onward_spansOneOf branches),
    Tree.spansOneOf_of_readings? branches hreadings]
  constructor
  · rintro ⟨w, hw, ds, hds, hpast⟩
    obtain ⟨s, hs, rfl⟩ := List.mem_map.mp hw
    obtain rfl : cs = ds := by simpa using hpast.1
    exact ⟨s, hs, (reads_letters_iff (hplain s hs)).mp hds⟩
  · rintro ⟨s, hs, hspells⟩
    exact ⟨_, List.mem_map_of_mem hs, cs, (reads_letters_iff (hplain s hs)).mpr hspells,
      by simp [Place.Past]⟩

section Engine

variable [PatternEngine] [Dialect] (hstandard : PatternEngine.IsStandard) (literal : String)

include hstandard

/-- The first pattern of a standard engine matches the spellings of truth, up to case and the long
s. -/
theorem isMatch_trueCode_iff : PatternEngine.isMatch PatternEngine.trueCode literal = true ↔
    ∃ s ∈ trueSpellings, IgnoringCase (withPlainS literal.toList) s := by
  rw [hstandard.isMatch_iff PatternEngine.compile_true parse?_truePattern]
  exact matchesIn_choiceForAll_iff rfl isPlain_true

/-- The second pattern of a standard engine matches the spellings of falsehood, likewise. -/
theorem isMatch_falseCode_iff : PatternEngine.isMatch PatternEngine.falseCode literal = true ↔
    ∃ s ∈ falseSpellings, IgnoringCase (withPlainS literal.toList) s := by
  rw [hstandard.isMatch_iff PatternEngine.compile_false parse?_falsePattern]
  exact matchesIn_choiceForAll_iff rfl isPlain_false

theorem readBool_eq_true_iff : readBool literal = .ok true ↔
    ∃ s ∈ trueSpellings, IgnoringCase (withPlainS literal.toList) s := by
  rw [← isMatch_trueCode_iff hstandard, readBool]
  split_ifs with h h' <;> simp [h]

/-- No text is a spelling of both truth values, so the order in which they are tried is the same. -/
theorem readBool_eq_false_iff : readBool literal = .ok false ↔
    ∃ s ∈ falseSpellings, IgnoringCase (withPlainS literal.toList) s := by
  have htrue := isMatch_trueCode_iff hstandard literal
  have hfalse := isMatch_falseCode_iff hstandard literal
  rw [← hfalse, readBool]
  split_ifs with h h'
  · refine iff_of_false nofun fun h' => ?_
    obtain ⟨s, hs, heq⟩ := htrue.mp h
    obtain ⟨s', hs', heq'⟩ := hfalse.mp h'
    exact ne_of_spellings s hs s' hs' (String.toList_inj.mp (heq.symm.trans heq'))
  · simp [h']
  · simp [h']

/-- With a standard engine, the texts that are read as true are the eight spellings, ignoring the
case of ASCII letters, also with a long s in the place of an s; likewise those that are read as
false. Every other text is refused as it is. -/
theorem readBool_exactly :
    (readBool literal = .ok true ↔
      ∃ s ∈ trueSpellings, IgnoringCase (withPlainS literal.toList) s) ∧
    (readBool literal = .ok false ↔
      ∃ s ∈ falseSpellings, IgnoringCase (withPlainS literal.toList) s) ∧
    (readBool literal = .error (.invalidBoolean literal) ↔
      ∀ s ∈ trueSpellings ++ falseSpellings, ¬ IgnoringCase (withPlainS literal.toList) s) := by
  have htrue := readBool_eq_true_iff hstandard literal
  have hfalse := readBool_eq_false_iff hstandard literal
  refine ⟨htrue, hfalse, ?_⟩
  rw [List.forall_mem_append]
  have hother : readBool literal = .error (.invalidBoolean literal) ↔
      ¬ readBool literal = .ok true ∧ ¬ readBool literal = .ok false := by
    unfold readBool
    split_ifs <;> simp
  rw [hother, htrue, hfalse]
  simp only [not_exists, not_and]

end Engine

section Marks

open Pattern.Engine

/-- A long s counts as an s, and a blank is part of no spelling. -/
theorem long_s_counts : readBool "YEſ" = .ok true ∧
    readBool " yes" = .error (.invalidBoolean " yes") := by
  have hspelled : ∃ s ∈ trueSpellings, IgnoringCase (withPlainS "YEſ".toList) s := by decide
  have hblank : ∀ s ∈ trueSpellings ++ falseSpellings,
      ¬ IgnoringCase (withPlainS " yes".toList) s := by
    decide
  exact ⟨(readBool_exactly isStandard "YEſ").1.mpr hspelled,
    (readBool_exactly isStandard " yes").2.2.mpr hblank⟩

/-- A text with a long s is read as true, though no spelling is equal to it by the case of ASCII
letters alone. -/
theorem long_s_read :
    ¬ ∀ literal : String, readBool literal = .ok true ↔
      ∃ s ∈ trueSpellings, IgnoringCase literal.toList s := by
  intro h
  have hlong : IgnoringCase (withPlainS "yeſ".toList) "yes" := by decide
  have hread : readBool "yeſ" = .ok true :=
    if_pos ((isMatch_trueCode_iff isStandard "yeſ").mpr ⟨"yes", by decide, hlong⟩)
  have hspelled := (h "yeſ").mp hread
  revert hspelled
  decide

end Marks

end Literal

end FieldGate
