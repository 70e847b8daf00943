import FieldGate.Unicode.CaseFold
import FieldGate.Unicode.Membership
import Mathlib.Data.List.Chain
import Mathlib.Tactic.SplitIfs

/-! Simple case folding. A character that another one folds to folds no further, so a set and all
that folds as its members do is a union of classes. -/
namespace FieldGate.Unicode

variable {r : FoldRun} {s : Ranges} {n m : Nat}

namespace FoldRun

def Before (r r' : FoldRun) : Prop :=
  r.first ≤ r.last ∧ r.last < r'.first ∧ r'.first ≤ r'.last

instance : DecidableRel Before := fun _ _ => inferInstanceAs (Decidable (_ ∧ _ ∧ _))

instance : Trans Before Before Before where
  trans h h' :=
    ⟨h.1, Nat.lt_trans (Nat.lt_of_lt_of_le h.2.1 h.2.2) h'.2.1, h'.2.2⟩

/-- No run that reaches into what the run folds to covers anything of it. -/
def isLast (r : FoldRun) : Bool :=
  let top := r.target + (r.last - r.first)
  ((foldRuns.dropWhile fun r' => Nat.blt r'.last r.target).takeWhile fun r' =>
    Nat.ble r'.first top).all fun r' => r.codes.all fun n => !r'.covers (r.target + (n - r.first))

end FoldRun

private theorem before_foldRuns : foldRuns.Pairwise FoldRun.Before := by
  have hchain : foldRuns.IsChain FoldRun.Before := by decide +kernel
  exact hchain.pairwise

private theorem foldRuns_filled : ∀ r ∈ foldRuns, r.first ≤ r.last ∧ 0 < r.step := by
  decide +kernel

private theorem foldRuns_ranges : ∀ r ∈ foldRuns, Ranges.IsRange (r.first, r.last) ∧
    Ranges.IsRange (r.target, r.target + (r.last - r.first)) := by
  decide +kernel

private theorem foldRuns_isLast : ∀ r ∈ foldRuns, r.isLast = true := by
  decide +kernel

namespace FoldRun

theorem covers_iff : r.covers n = true ↔
    r.first ≤ n ∧ n ≤ r.last ∧ (n - r.first) % r.step = 0 := by
  simp [covers, and_assoc]

theorem mem_codes (hr : r ∈ foldRuns) : n ∈ r.codes ↔ r.covers n = true := by
  obtain ⟨hfilled, hstep⟩ := foldRuns_filled r hr
  rw [covers_iff, codes, List.mem_map]
  constructor
  · rintro ⟨k, hk, rfl⟩
    rw [List.mem_range] at hk
    have hbound : r.step * k ≤ r.last - r.first :=
      Nat.le_trans (Nat.mul_le_mul_left _ (Nat.le_of_lt_succ hk)) (Nat.mul_div_le _ _)
    refine ⟨by omega, by omega, ?_⟩
    rw [Nat.add_sub_cancel_left, Nat.mul_mod_right]
  · rintro ⟨hlow, hhigh, hmod⟩
    refine ⟨(n - r.first) / r.step, ?_, ?_⟩
    · rw [List.mem_range]
      exact Nat.lt_succ_of_le (Nat.div_le_div_right (by omega))
    · rw [Nat.mul_div_cancel' (Nat.dvd_of_mod_eq_zero hmod)]
      omega

end FoldRun

open FoldRun

private theorem eq_of_covers {r' : FoldRun} (hr : r ∈ foldRuns) (hr' : r' ∈ foldRuns)
    (h : r.covers n = true) (h' : r'.covers n = true) : r = r' := by
  rw [covers_iff] at h h'
  obtain ⟨i, hi, rfl⟩ := List.mem_iff_getElem.mp hr
  obtain ⟨j, hj, rfl⟩ := List.mem_iff_getElem.mp hr'
  rcases Nat.lt_trichotomy i j with hlt | rfl | hlt
  · have := (List.pairwise_iff_getElem.mp before_foldRuns i j hi hj hlt).2.1
    omega
  · rfl
  · have := (List.pairwise_iff_getElem.mp before_foldRuns j i hj hi hlt).2.1
    omega

theorem foldCode_of_covers (hr : r ∈ foldRuns) (h : r.covers n = true) :
    foldCode n = r.target + (n - r.first) := by
  unfold foldCode
  split
  · rename_i r' hfound
    have hcovers : r'.covers n = true := List.find?_some (p := fun r : FoldRun => r.covers n) hfound
    rw [eq_of_covers hr (List.mem_of_find?_eq_some hfound) h hcovers]
  · rename_i hnone
    exact absurd h (List.find?_eq_none.mp hnone r hr)

/-- A character folds by the run that covers it, or stays as it is. -/
theorem foldCode_cases (n : Nat) :
    (∃ r ∈ foldRuns, r.covers n = true) ∨ foldCode n = n := by
  unfold foldCode
  split
  · rename_i r hfound
    have hcovers : r.covers n = true := List.find?_some (p := fun r : FoldRun => r.covers n) hfound
    exact .inl ⟨r, List.mem_of_find?_eq_some hfound, hcovers⟩
  · exact .inr rfl

private theorem mem_takeWhile {rs : List FoldRun} {q : FoldRun} {hi : Nat}
    (hrs : rs.Pairwise FoldRun.Before) (hq : q ∈ rs) (hhigh : q.first ≤ hi) :
    q ∈ rs.takeWhile fun r' => Nat.ble r'.first hi := by
  induction rs with
  | nil => cases hq
  | cons r rs ih =>
    obtain ⟨hfirst, hrest⟩ := List.pairwise_cons.mp hrs
    rw [List.takeWhile_cons]
    rcases List.mem_cons.mp hq with rfl | hq
    · rw [if_pos (Nat.ble_eq.mpr hhigh)]
      exact List.mem_cons_self
    · have hlt := hfirst q hq
      have hreaches : r.first ≤ hi := by
        unfold FoldRun.Before at hlt
        omega
      rw [if_pos (Nat.ble_eq.mpr hreaches)]
      exact List.mem_cons_of_mem r (ih hrest hq)

private theorem mem_dropWhile {rs : List FoldRun} {q : FoldRun} {lo : Nat} (hq : q ∈ rs)
    (hlow : lo ≤ q.last) : q ∈ rs.dropWhile fun r' => Nat.blt r'.last lo := by
  induction rs with
  | nil => cases hq
  | cons r rs ih =>
    rw [List.dropWhile_cons]
    split
    · rename_i hdropped
      rcases List.mem_cons.mp hq with rfl | hq
      · rw [Nat.blt_eq] at hdropped
        omega
      · exact ih hq
    · exact hq

private theorem not_covers_target {q : FoldRun} (hr : r ∈ foldRuns) (h : r.covers n = true)
    (hq : q ∈ foldRuns) : ¬ q.covers (r.target + (n - r.first)) = true := by
  intro hcovers
  obtain ⟨hlow, hhigh, -⟩ := covers_iff.mp h
  obtain ⟨hlow', hhigh', -⟩ := covers_iff.mp hcovers
  have hlast := foldRuns_isLast r hr
  rw [isLast, List.all_eq_true] at hlast
  have hnot := hlast q (mem_takeWhile (before_foldRuns.sublist (List.dropWhile_sublist _))
    (mem_dropWhile hq (by omega)) (by omega))
  rw [List.all_eq_true] at hnot
  have hnot := hnot n ((mem_codes hr).mpr h)
  rw [hcovers] at hnot
  cases hnot

/-- Folding is done after one step. -/
@[simp] theorem foldCode_foldCode (n : Nat) : foldCode (foldCode n) = foldCode n := by
  rcases foldCode_cases n with ⟨r, hr, h⟩ | h
  · rw [foldCode_of_covers hr h]
    rcases foldCode_cases (r.target + (n - r.first)) with ⟨q, hq, hcovers⟩ | hstays
    · exact absurd hcovers (not_covers_target hr h hq)
    · exact hstays
  · rw [h, h]

open Ranges

private theorem mem_singletons {ns : List Nat} {f : Nat → Nat} :
    Mem (ns.map fun n => (f n, f n)) m ↔ ∃ n ∈ ns, f n = m := by
  simp only [Mem, List.mem_map]
  constructor
  · rintro ⟨_, ⟨n, hn, rfl⟩, hlow, hhigh⟩
    exact ⟨n, hn, Nat.le_antisymm hlow hhigh⟩
  · rintro ⟨n, hn, rfl⟩
    exact ⟨_, ⟨n, hn, rfl⟩, Nat.le_refl _, Nat.le_refl _⟩

private theorem isValidChar_of_covers (hr : r ∈ foldRuns) (h : r.covers n = true) :
    n.isValidChar ∧ (foldCode n).isValidChar := by
  obtain ⟨hcodes, htargets⟩ := foldRuns_ranges r hr
  obtain ⟨hlow, hhigh, -⟩ := covers_iff.mp h
  rw [foldCode_of_covers hr h]
  unfold IsRange at hcodes htargets
  unfold Nat.isValidChar
  simp only at hcodes htargets
  omega

private theorem isRange_singletons {ns : List Nat} {f : Nat → Nat} {p : Nat × Nat}
    (hp : p ∈ ns.map fun n => (f n, f n)) (h : ∀ n ∈ ns, (f n).isValidChar) : IsRange p := by
  obtain ⟨n, hn, rfl⟩ := List.mem_map.mp hp
  have := h n hn
  unfold Nat.isValidChar at this
  unfold IsRange
  simp only
  omega

private theorem mem_chosen {part : Ranges} (hr : r ∈ foldRuns) (hpart : Ordered part)
    (f : Nat → Nat) : n ∈ r.codes.filter (fun n => part.has (f n)) ↔
      r.covers n = true ∧ Mem part (f n) := by
  rw [List.mem_filter, mem_codes hr, hpart.has_iff]

/-- What the members of a set fold to that the run covers. -/
theorem mem_targets (hr : r ∈ foldRuns) (hs : Ordered s) :
    Mem (r.targets s) m ↔ ∃ n, r.covers n = true ∧ Mem s n ∧ foldCode n = m := by
  have hnear := hs.near r.first r.last
  have hiff : Mem (r.targets s) m ↔ ∃ n ∈ r.codes.filter (s.near r.first r.last).has,
      r.target + (n - r.first) = m := by
    unfold FoldRun.targets
    dsimp only
    split_ifs with hempty
    · rw [List.isEmpty_iff.mp hempty]
      simp [has]
    · exact mem_singletons
  rw [hiff]
  refine exists_congr fun n => ?_
  have hchosen : n ∈ r.codes.filter (s.near r.first r.last).has ↔
      r.covers n = true ∧ Mem (s.near r.first r.last) n := mem_chosen hr hnear id
  rw [hchosen, and_assoc]
  refine and_congr_right fun h => ?_
  obtain ⟨hlow, hhigh, -⟩ := covers_iff.mp h
  rw [foldCode_of_covers hr h, mem_near hlow hhigh]

/-- The characters that the run covers and that fold to members of a set. -/
theorem mem_sources (hr : r ∈ foldRuns) (hs : Ordered s) :
    Mem (r.sources s) m ↔ r.covers m = true ∧ Mem s (foldCode m) := by
  have hnear := hs.near r.target (r.target + (r.last - r.first))
  have hiff : Mem (r.sources s) m ↔ m ∈ r.codes.filter fun n =>
      (s.near r.target (r.target + (r.last - r.first))).has (r.target + (n - r.first)) := by
    unfold FoldRun.sources
    dsimp only
    split_ifs with hempty
    · rw [List.isEmpty_iff.mp hempty]
      simp [has]
    · exact (mem_singletons (f := id)).trans (by simp)
  rw [hiff, mem_chosen hr hnear fun n => r.target + (n - r.first)]
  refine and_congr_right fun h => ?_
  obtain ⟨hlow, hhigh, -⟩ := covers_iff.mp h
  rw [foldCode_of_covers hr h, mem_near (by omega) (by omega)]

private theorem isRange_targets (hr : r ∈ foldRuns) {p : Nat × Nat} (hp : p ∈ r.targets s) :
    IsRange p := by
  unfold FoldRun.targets at hp
  dsimp only at hp
  split_ifs at hp
  · cases hp
  · refine isRange_singletons hp fun n hn => ?_
    have hcovers := (mem_codes hr).mp (List.mem_filter.mp hn).1
    rw [← foldCode_of_covers hr hcovers]
    exact (isValidChar_of_covers hr hcovers).2

private theorem isRange_sources (hr : r ∈ foldRuns) {p : Nat × Nat} (hp : p ∈ r.sources s) :
    IsRange p := by
  unfold FoldRun.sources at hp
  dsimp only at hp
  split_ifs at hp
  · cases hp
  · refine isRange_singletons (f := id) hp fun n hn => ?_
    exact (isValidChar_of_covers hr ((mem_codes hr).mp (List.mem_filter.mp hn).1)).1

private theorem proper_folded (hs : Proper s) :
    Proper (s.union (foldRuns.flatMap (·.targets s))) := by
  refine proper_ofList fun p hp => ?_
  rcases List.mem_append.mp hp with hp | hp
  · exact hs.ranges p hp
  · obtain ⟨r, hr, hp⟩ := List.mem_flatMap.mp hp
    exact isRange_targets hr hp

private theorem mem_folded (hs : Proper s) :
    Mem (s.union (foldRuns.flatMap (·.targets s))) n ↔ Mem s n ∨ ∃ m, Mem s m ∧ foldCode m = n := by
  rw [mem_union, mem_flatMap]
  refine or_congr_right' fun hn => ⟨?_, ?_⟩
  · rintro ⟨r, hr, hmem⟩
    obtain ⟨m, -, hm, hfold⟩ := (mem_targets hr hs.ordered).mp hmem
    exact ⟨m, hm, hfold⟩
  · rintro ⟨m, hm, hfold⟩
    rcases foldCode_cases m with ⟨r, hr, hcovers⟩ | hstays
    · exact ⟨r, hr, (mem_targets hr hs.ordered).mpr ⟨m, hcovers, hm, hfold⟩⟩
    · rw [hstays] at hfold
      exact absurd (hfold ▸ hm) hn

theorem proper_foldClosure (hs : Proper s) : Proper (foldClosure s) := by
  refine proper_ofList fun p hp => ?_
  rcases List.mem_append.mp hp with hp | hp
  · exact (proper_folded hs).ranges p hp
  · obtain ⟨r, hr, hp⟩ := List.mem_flatMap.mp hp
    exact isRange_sources hr hp

/-- The closure of a set has every character that folds as one of its members does. -/
theorem mem_foldClosure (hs : Proper s) :
    Mem (foldClosure s) n ↔ ∃ m, Mem s m ∧ foldCode m = foldCode n := by
  have hordered := (proper_folded hs).ordered
  rw [foldClosure, mem_union, mem_flatMap]
  constructor
  · rintro (hn | ⟨r, hr, hn⟩)
    · rcases (mem_folded hs).mp hn with hn | ⟨m, hm, rfl⟩
      · exact ⟨n, hn, rfl⟩
      · exact ⟨m, hm, (foldCode_foldCode m).symm⟩
    · rcases (mem_folded hs).mp ((mem_sources hr hordered).mp hn).2 with hn | hn
      · exact ⟨foldCode n, hn, foldCode_foldCode n⟩
      · exact hn
  · rintro ⟨m, hm, hfold⟩
    have hfolded := (mem_folded hs).mpr (.inr ⟨m, hm, hfold⟩)
    rcases foldCode_cases n with ⟨r, hr, hcovers⟩ | hstays
    · exact .inr ⟨r, hr, (mem_sources hr hordered).mpr ⟨hcovers, hfolded⟩⟩
    · rw [hstays] at hfolded
      exact .inl hfolded

/-- Small and capital ASCII letters have codes that differ by 32. -/
def asciiFold (n : Nat) : Nat := if 65 ≤ n ∧ n ≤ 90 then n + 32 else n

theorem toNat_toLower (c : Char) :
    c.toLower.toNat = asciiFold c.toNat := by
  unfold Char.toLower asciiFold
  split
  · rename_i h
    obtain ⟨hlow, hhigh⟩ : 65 ≤ c.toNat ∧ c.toNat ≤ 90 := by
      simpa [UInt32.le_iff_toNat_le] using h
    rw [if_pos ⟨hlow, hhigh⟩]
    change (c.val.toNat + 32) % 2 ^ 32 = c.val.toNat + 32
    exact Nat.mod_eq_of_lt (by have : c.val.toNat ≤ 90 := hhigh; omega)
  · rename_i h
    rw [if_neg]
    simpa [UInt32.le_iff_toNat_le] using h

theorem toLower_eq_iff {c d : Char} :
    c.toLower = d.toLower ↔ asciiFold c.toNat = asciiFold d.toNat := by
  rw [← Char.toNat_inj, toNat_toLower, toNat_toLower]

theorem proper_foldClosureAscii (hs : Proper s) : Proper (foldClosureAscii s) := by
  refine proper_ofList fun p hp => ?_
  rcases List.mem_append.mp hp with hp | hp
  · exact hs.ranges p hp
  · obtain ⟨k, hk, hp⟩ := List.mem_flatMap.mp hp
    rw [List.mem_range] at hk
    split_ifs at hp
    · unfold IsRange
      simp only [List.mem_cons, List.not_mem_nil, or_false] at hp
      rcases hp with rfl | rfl <;> simp only <;> omega
    · cases hp

/-- The closure of a set under the case of ASCII letters has every character that differs from one
of its members by that alone. -/
theorem mem_foldClosureAscii (hs : Proper s) :
    Mem (foldClosureAscii s) n ↔ ∃ m, Mem s m ∧ asciiFold m = asciiFold n := by
  rw [foldClosureAscii, mem_union, mem_flatMap]
  constructor
  · rintro (hn | ⟨k, hk, hn⟩)
    · exact ⟨n, hn, rfl⟩
    · rw [List.mem_range] at hk
      split_ifs at hn with hpair
      · rw [Bool.or_eq_true, hs.ordered.has_iff, hs.ordered.has_iff] at hpair
        simp only [mem_cons, mem_nil, or_false] at hn
        unfold asciiFold
        rcases hpair with hm | hm
        · refine ⟨_, hm, ?_⟩
          split_ifs <;> omega
        · refine ⟨_, hm, ?_⟩
          split_ifs <;> omega
      · simp at hn
  · rintro ⟨m, hm, hfold⟩
    by_cases heq : m = n
    · exact .inl (heq ▸ hm)
    · -- one of the two is a capital letter, and the other one its small letter
      have hletters : ∃ k < 26, (m = 65 + k ∧ n = 97 + k) ∨ (m = 97 + k ∧ n = 65 + k) := by
        unfold asciiFold at hfold
        split_ifs at hfold
        · omega
        · exact ⟨m - 65, by omega, .inl (by omega)⟩
        · exact ⟨n - 65, by omega, .inr (by omega)⟩
        · omega
      obtain ⟨k, hk, hletters⟩ := hletters
      have hpair : (s.has (0x41 + k) || s.has (0x61 + k)) = true := by
        rw [Bool.or_eq_true, hs.ordered.has_iff, hs.ordered.has_iff]
        rcases hletters with ⟨rfl, -⟩ | ⟨rfl, -⟩
        · exact .inl hm
        · exact .inr hm
      refine .inr ⟨k, List.mem_range.mpr hk, ?_⟩
      rw [if_pos hpair, mem_cons, mem_cons]
      simp only
      omega

end FieldGate.Unicode
