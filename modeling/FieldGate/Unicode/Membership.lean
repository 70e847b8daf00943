import FieldGate.Unicode.Properties

/-! Membership in sets of code points. Each operation on ranges has the members that its name says,
and gives ranges in order for ranges in order. -/
namespace FieldGate.Unicode

namespace Ranges

variable {r s : Ranges} {p : Nat × Nat} {lo hi n : Nat}

def Mem (r : Ranges) (n : Nat) : Prop := ∃ p ∈ r, p.1 ≤ n ∧ n ≤ p.2

@[simp] theorem mem_nil : Mem [] n ↔ False := by
  simp [Mem]

@[simp] theorem mem_cons : Mem (p :: r) n ↔ (p.1 ≤ n ∧ n ≤ p.2) ∨ Mem r n := by
  simp [Mem]

@[simp] theorem mem_append : Mem (r ++ s) n ↔ Mem r n ∨ Mem s n := by
  simp only [Mem, List.mem_append, or_and_right, exists_or]

theorem mem_flatMap {α : Type} {as : List α} {f : α → Ranges} :
    Mem (as.flatMap f) n ↔ ∃ a ∈ as, Mem (f a) n := by
  simp only [Mem, List.mem_flatMap]
  constructor
  · rintro ⟨p, ⟨a, ha, hp⟩, hn⟩
    exact ⟨a, ha, p, hp, hn⟩
  · rintro ⟨a, ha, p, hp, hn⟩
    exact ⟨p, ⟨a, ha, hp⟩, hn⟩

/-- Ranges in order, none of which is empty. -/
structure Ordered (r : Ranges) : Prop where
  filled : ∀ p ∈ r, p.1 ≤ p.2
  apart : r.Pairwise fun p q => p.2 < q.1

theorem ordered_cons : Ordered (p :: r) ↔ p.1 ≤ p.2 ∧ (∀ q ∈ r, p.2 < q.1) ∧ Ordered r := by
  constructor
  · rintro ⟨hfilled, hapart⟩
    obtain ⟨hfirst, hrest⟩ := List.pairwise_cons.mp hapart
    obtain ⟨hp, hr⟩ := List.forall_mem_cons.mp hfilled
    exact ⟨hp, hfirst, hr, hrest⟩
  · rintro ⟨hp, hfirst, hr⟩
    exact ⟨List.forall_mem_cons.mpr ⟨hp, hr.filled⟩, .cons hfirst hr.apart⟩

theorem Proper.ordered (hr : Proper r) : Ordered r := ⟨fun p hp => (hr.ranges p hp).1, hr.apart⟩

/-- What a set of characters has is a character. -/
theorem Proper.isValidChar (hr : Proper r) (h : Mem r n) : n.isValidChar := by
  obtain ⟨p, hp, hlow, hhigh⟩ := h
  have := hr.ranges p hp
  unfold IsRange at this
  unfold Nat.isValidChar
  omega

/-- Ranges in order that have characters only are those of a set of characters. -/
theorem Ordered.proper (hr : Ordered r) (h : ∀ n, Mem r n → n.isValidChar) : Proper r := by
  refine ⟨fun p hp => ?_, hr.apart⟩
  have hfilled := hr.filled p hp
  have hlow : p.1.isValidChar := h _ ⟨p, hp, Nat.le_refl _, hfilled⟩
  have hhigh : p.2.isValidChar := h _ ⟨p, hp, hfilled, Nat.le_refl _⟩
  have hsurrogate : ¬ (p.1 ≤ 0xD800 ∧ 0xD800 ≤ p.2) := fun hin =>
    absurd (h 0xD800 ⟨p, hp, hin⟩) (by decide)
  unfold Nat.isValidChar at hlow hhigh
  unfold IsRange
  omega

/-- In ranges in order the search finds every member. -/
theorem Ordered.has_iff (hr : Ordered r) : r.has n = true ↔ Mem r n := by
  induction r with
  | nil => simp [has]
  | cons p r ih =>
    obtain ⟨lo, hi⟩ := p
    obtain ⟨hp, hfirst, hrest⟩ := ordered_cons.mp hr
    rw [has, mem_cons]
    split
    · rename_i hn
      simp only [Bool.false_eq_true, false_iff, not_or]
      refine ⟨by omega, ?_⟩
      rintro ⟨q, hq, hlow, -⟩
      have := hfirst q hq
      simp only at hp this
      omega
    · rename_i hn
      rw [Bool.or_eq_true, decide_eq_true_iff, ih hrest]
      simp [Nat.le_of_not_lt hn]

theorem mem_joinFrom (hin : ∀ q ∈ r, lo ≤ q.1) (hr : r.Pairwise fun p q => p.1 ≤ q.1) :
    Mem (joinFrom lo hi r) n ↔ (lo ≤ n ∧ n ≤ hi) ∨ Mem r n := by
  induction r generalizing lo hi with
  | nil => simp [joinFrom]
  | cons q r ih =>
    obtain ⟨a, b⟩ := q
    obtain ⟨hfirst, hrest⟩ := List.pairwise_cons.mp hr
    obtain ⟨ha, hin⟩ := List.forall_mem_cons.mp hin
    simp only at ha hfirst
    rw [joinFrom]
    split
    · rw [ih hin hrest, mem_cons, ← or_assoc]
      refine or_congr_left ?_
      simp only
      omega
    · rw [mem_cons, ih hfirst hrest, mem_cons]

theorem proper_joinFrom (hp : IsRange (lo, hi)) (hin : ∀ q ∈ r, lo ≤ q.1)
    (hranges : ∀ q ∈ r, IsRange q) (hr : r.Pairwise fun p q => p.1 ≤ q.1) :
    Proper (joinFrom lo hi r) ∧ ∀ q ∈ joinFrom lo hi r, lo ≤ q.1 := by
  induction r generalizing lo hi with
  | nil =>
    rw [joinFrom]
    exact ⟨⟨by simpa using hp, List.pairwise_singleton _ _⟩, by simp⟩
  | cons q r ih =>
    obtain ⟨a, b⟩ := q
    obtain ⟨hfirst, hrest⟩ := List.pairwise_cons.mp hr
    obtain ⟨ha, hin⟩ := List.forall_mem_cons.mp hin
    obtain ⟨hq, hranges⟩ := List.forall_mem_cons.mp hranges
    simp only at ha hfirst
    rw [joinFrom]
    split
    · refine ih ?_ hin hranges hrest
      unfold IsRange at hp hq ⊢
      simp only at hp hq ⊢
      omega
    · obtain ⟨hproper, hbehind⟩ := ih hq hfirst hranges hrest
      refine ⟨⟨List.forall_mem_cons.mpr ⟨hp, hproper.ranges⟩, .cons (fun q hq => ?_) hproper.apart⟩,
        fun q hq => ?_⟩
      · have := hbehind q hq
        simp only
        omega
      · rcases List.mem_cons.mp hq with rfl | hq
        · exact Nat.le_refl _
        · exact Nat.le_trans ha (hbehind q hq)

private theorem perm_insert (p : Nat × Nat) (r : Ranges) : (insert p r).Perm (p :: r) := by
  induction r with
  | nil => exact .refl _
  | cons q r ih =>
    unfold insert
    split
    · exact .refl _
    · exact (ih.cons q).trans (.swap p q r)

private theorem pairwise_insert (p : Nat × Nat) (hr : r.Pairwise fun p q => p.1 ≤ q.1) :
    (insert p r).Pairwise fun p q => p.1 ≤ q.1 := by
  induction r with
  | nil => exact List.pairwise_singleton _ _
  | cons q r ih =>
    obtain ⟨hq, hrest⟩ := List.pairwise_cons.mp hr
    unfold insert
    split
    · rename_i hle
      exact .cons (List.forall_mem_cons.mpr ⟨hle, fun t ht => Nat.le_trans hle (hq t ht)⟩) hr
    · rename_i hlt
      refine .cons (fun t ht => ?_) (ih hrest)
      rcases List.mem_cons.mp ((perm_insert p r).mem_iff.mp ht) with rfl | ht
      · exact Nat.le_of_not_le hlt
      · exact hq t ht

private theorem perm_inOrder (rs : List (Nat × Nat)) : (inOrder rs).Perm rs := by
  induction rs with
  | nil => exact .refl _
  | cons p rs ih => exact (perm_insert p (inOrder rs)).trans (ih.cons p)

private theorem pairwise_inOrder (rs : List (Nat × Nat)) :
    (inOrder rs).Pairwise fun p q => p.1 ≤ q.1 := by
  induction rs with
  | nil => exact .nil
  | cons p rs ih => exact pairwise_insert p ih

theorem mem_ofList (rs : List (Nat × Nat)) : Mem (ofList rs) n ↔ Mem rs n := by
  have hsorted := pairwise_inOrder rs
  have hmem : Mem (inOrder rs) n ↔ Mem rs n := by
    simp only [Mem, (perm_inOrder rs).mem_iff]
  rw [← hmem]
  unfold ofList
  split
  · rename_i heq
    rw [heq]
  · rename_i heq
    rw [heq] at hsorted ⊢
    obtain ⟨hfirst, hrest⟩ := List.pairwise_cons.mp hsorted
    rw [mem_joinFrom hfirst hrest, mem_cons]

theorem proper_ofList {rs : List (Nat × Nat)} (hrs : ∀ p ∈ rs, IsRange p) :
    Proper (ofList rs) := by
  have hsorted := pairwise_inOrder rs
  have hranges : ∀ p ∈ inOrder rs, IsRange p := fun p hp => hrs p ((perm_inOrder rs).mem_iff.mp hp)
  unfold ofList
  split
  · exact ⟨nofun, .nil⟩
  · rename_i heq
    rw [heq] at hsorted hranges
    obtain ⟨hfirst, hrest⟩ := List.pairwise_cons.mp hsorted
    obtain ⟨hp, hranges⟩ := List.forall_mem_cons.mp hranges
    exact (proper_joinFrom hp hfirst hranges hrest).1

theorem mem_union : Mem (union r s) n ↔ Mem r n ∨ Mem s n := by
  rw [union, mem_ofList, mem_append]

theorem Proper.union (hr : Proper r) (hs : Proper s) : Proper (union r s) :=
  proper_ofList fun p hp => (List.mem_append.mp hp).elim (hr.ranges p) (hs.ranges p)

theorem mem_remainder (hlo : lo ≤ hi) (hs : Ordered s) :
    Mem (remainder lo hi s) n ↔ (lo ≤ n ∧ n ≤ hi) ∧ ¬ Mem s n := by
  induction s generalizing lo with
  | nil => simp [remainder]
  | cons p s ih =>
    obtain ⟨a, b⟩ := p
    obtain ⟨hab, hfirst, hrest⟩ := ordered_cons.mp hs
    have hbehind (hn : n ≤ b) : ¬ Mem s n := by
      rintro ⟨q, hq, hlow, -⟩
      have := hfirst q hq
      simp only at this
      omega
    simp only at hab
    rw [remainder, mem_cons]
    by_cases hbelow : b < lo
    · rw [if_pos hbelow, ih hlo hrest]
      refine and_congr_right fun hn => ?_
      simp only [not_or]
      exact (and_iff_right (by omega)).symm
    by_cases habove : hi < a
    · rw [if_neg hbelow, if_pos habove, mem_cons]
      simp only [mem_nil, or_false]
      refine (and_iff_left_of_imp fun hn => ?_).symm
      rw [not_or]
      exact ⟨by omega, hbehind (by omega)⟩
    -- what lies below the first range of the set, and what the rest of it leaves above
    have hleft : Mem (if lo < a then [(lo, a - 1)] else []) n ↔ lo ≤ n ∧ n < a := by
      split <;> simp <;> omega
    have hright : Mem (if b < hi then remainder (b + 1) hi s else []) n ↔
        (b < n ∧ n ≤ hi) ∧ ¬ Mem s n := by
      split
      · exact ih (by omega) hrest
      · simp only [mem_nil, false_iff, not_and]
        omega
    have hsplit : (if b < hi then (if lo < a then [(lo, a - 1)] else []) ++ remainder (b + 1) hi s
        else if lo < a then [(lo, a - 1)] else []) =
          (if lo < a then [(lo, a - 1)] else []) ++
            if b < hi then remainder (b + 1) hi s else [] := by
      split <;> simp
    rw [if_neg hbelow, if_neg habove, hsplit, mem_append, hleft, hright, not_or]
    constructor
    · rintro (hn | ⟨hn, hnot⟩)
      · exact ⟨by omega, by omega, hbehind (by omega)⟩
      · exact ⟨by omega, by omega, hnot⟩
    · rintro ⟨hn, hout, hnot⟩
      by_cases hside : n < a
      · exact .inl ⟨hn.1, hside⟩
      · exact .inr ⟨by omega, hnot⟩

/-- The pieces of a range that another set leaves lie in the range, in order. -/
theorem pieces_remainder (hlo : lo ≤ hi) (hs : Ordered s) :
    (∀ q ∈ remainder lo hi s, lo ≤ q.1 ∧ q.1 ≤ q.2 ∧ q.2 ≤ hi) ∧
      (remainder lo hi s).Pairwise fun p q => p.2 < q.1 := by
  induction s generalizing lo with
  | nil =>
    rw [remainder]
    exact ⟨by simpa using hlo, List.pairwise_singleton _ _⟩
  | cons p s ih =>
    obtain ⟨a, b⟩ := p
    obtain ⟨hab, -, hrest⟩ := ordered_cons.mp hs
    simp only at hab
    rw [remainder]
    simp only
    split
    · exact ih hlo hrest
    split
    · exact ⟨by simpa using hlo, List.pairwise_singleton _ _⟩
    split <;> split
    · obtain ⟨hin, hapart⟩ := ih (show b + 1 ≤ hi by omega) hrest
      refine ⟨fun q hq => ?_, .cons (fun q hq => ?_) hapart⟩
      · rcases List.mem_cons.mp hq with rfl | hq
        · simp only
          omega
        · have := hin q hq
          omega
      · have := hin q hq
        simp only
        omega
    · obtain ⟨hin, hapart⟩ := ih (show b + 1 ≤ hi by omega) hrest
      exact ⟨fun q hq => by have := hin q hq; omega, hapart⟩
    · refine ⟨fun q hq => ?_, List.pairwise_singleton _ _⟩
      rw [List.mem_singleton.mp hq]
      simp only
      omega
    · exact ⟨nofun, .nil⟩

theorem mem_difference (hr : Ordered r) (hs : Ordered s) :
    Mem (difference r s) n ↔ Mem r n ∧ ¬ Mem s n := by
  rw [difference, mem_flatMap]
  constructor
  · rintro ⟨p, hp, h⟩
    obtain ⟨hn, hnot⟩ := (mem_remainder (hr.filled p hp) hs).mp h
    exact ⟨⟨p, hp, hn⟩, hnot⟩
  · rintro ⟨⟨p, hp, hn⟩, hnot⟩
    exact ⟨p, hp, (mem_remainder (hr.filled p hp) hs).mpr ⟨hn, hnot⟩⟩

theorem Ordered.difference (hr : Ordered r) (hs : Ordered s) : Ordered (difference r s) := by
  have hpieces (p) (hp : p ∈ r) := pieces_remainder (hr.filled p hp) hs
  constructor
  · intro q hq
    obtain ⟨p, hp, hq⟩ := List.mem_flatMap.mp hq
    exact ((hpieces p hp).1 q hq).2.1
  · rw [Ranges.difference, List.pairwise_flatMap]
    refine ⟨fun p hp => (hpieces p hp).2, ?_⟩
    refine hr.apart.imp_of_mem fun {p p'} hp hp' hlt q hq q' hq' => ?_
    have := (hpieces p hp).1 q hq
    have := (hpieces p' hp').1 q' hq'
    omega

theorem Proper.difference (hr : Proper r) (hs : Ordered s) : Proper (difference r s) :=
  (hr.ordered.difference hs).proper fun _ h =>
    hr.isValidChar ((mem_difference hr.ordered hs).mp h).1

theorem ordered_surrogates : Ordered surrogates := by
  constructor <;> decide

theorem mem_surrogates : Mem surrogates n ↔ 0xD800 ≤ n ∧ n ≤ 0xDFFF := by
  simp [surrogates]

/-- The characters of a range that may go over the surrogates. -/
theorem proper_span (hlo : lo ≤ hi) (hhi : hi ≤ 0x10FFFF) :
    Proper (difference [(lo, hi)] surrogates) := by
  have hordered : Ordered [(lo, hi)] := ordered_cons.mpr ⟨hlo, nofun, nofun, .nil⟩
  refine (hordered.difference ordered_surrogates).proper fun n h => ?_
  rw [mem_difference hordered ordered_surrogates, mem_surrogates, mem_cons] at h
  simp only [mem_nil, or_false] at h
  unfold Nat.isValidChar
  omega

theorem mem_span (hlo : lo ≤ hi) (hn : n.isValidChar) :
    Mem (difference [(lo, hi)] surrogates) n ↔ lo ≤ n ∧ n ≤ hi := by
  have hordered : Ordered [(lo, hi)] := ordered_cons.mpr ⟨hlo, nofun, nofun, .nil⟩
  rw [mem_difference hordered ordered_surrogates, mem_surrogates, mem_cons]
  simp only [mem_nil, or_false]
  unfold Nat.isValidChar at hn
  omega

theorem proper_scalars : Proper scalars := proper_span (Nat.zero_le _) (Nat.le_refl _)

theorem mem_scalars : Mem scalars n ↔ n.isValidChar := by
  refine ⟨proper_scalars.isValidChar, fun hn => (mem_span (Nat.zero_le _) hn).mpr ?_⟩
  unfold Nat.isValidChar at hn
  omega

theorem mem_complement (hr : Ordered r) : Mem (complement r) n ↔ n.isValidChar ∧ ¬ Mem r n := by
  rw [complement, mem_difference proper_scalars.ordered hr, mem_scalars]

theorem Proper.complement (hr : Proper r) : Proper (complement r) :=
  proper_scalars.difference hr.ordered

theorem mem_intersection (hr : Proper r) (hs : Proper s) :
    Mem (intersection r s) n ↔ Mem r n ∧ Mem s n := by
  rw [intersection, mem_difference hr.ordered hs.complement.ordered, mem_complement hs.ordered]
  refine and_congr_right fun h => ?_
  rw [not_and, Classical.not_not]
  exact ⟨fun himp => himp (hr.isValidChar h), fun h _ => h⟩

theorem Proper.intersection (hr : Proper r) (hs : Proper s) : Proper (intersection r s) :=
  hr.difference hs.complement.ordered

theorem mem_symmetricDifference (hr : Proper r) (hs : Proper s) :
    Mem (symmetricDifference r s) n ↔ (Mem r n ∧ ¬ Mem s n) ∨ (Mem s n ∧ ¬ Mem r n) := by
  rw [symmetricDifference, mem_union, mem_difference hr.ordered hs.ordered,
    mem_difference hs.ordered hr.ordered]

theorem Proper.symmetricDifference (hr : Proper r) (hs : Proper s) :
    Proper (symmetricDifference r s) :=
  (hr.difference hs.ordered).union (hs.difference hr.ordered)

/-- The ranges that reach into a span have the members that lie in it. -/
theorem mem_near (hlo : lo ≤ n) (hhi : n ≤ hi) : Mem (near r lo hi) n ↔ Mem r n := by
  simp only [Mem, near, List.mem_filter, Bool.and_eq_true, decide_eq_true_iff]
  constructor
  · rintro ⟨p, ⟨hp, -⟩, hn⟩
    exact ⟨p, hp, hn⟩
  · rintro ⟨p, hp, hlow, hhigh⟩
    exact ⟨p, ⟨hp, by omega⟩, hlow, hhigh⟩

theorem Ordered.near (hr : Ordered r) (lo hi : Nat) : Ordered (near r lo hi) :=
  ⟨fun p hp => hr.filled p (List.mem_filter.mp hp).1, hr.apart.filter _⟩

end Ranges

open Ranges (IsRange Proper)

namespace Category

private theorem isRange_ranges (k : Category) : ∀ p ∈ k.ranges, IsRange p := by
  cases k <;> decide +kernel

private theorem isRange_flatMap (cs : List Category) {p : Nat × Nat}
    (hp : p ∈ cs.flatMap ranges) : IsRange p := by
  obtain ⟨k, -, hp⟩ := List.mem_flatMap.mp hp
  exact k.isRange_ranges p hp

theorem proper_rangesOf (cs : List Category) : Proper (rangesOf cs) := by
  have hnamed (cs : List Category) : Proper (.ofList (cs.flatMap ranges)) :=
    Ranges.proper_ofList fun _ => isRange_flatMap cs
  unfold rangesOf
  dsimp only
  split
  · exact (hnamed cs).union (hnamed assigned).complement
  · exact hnamed cs

end Category

private theorem isRange_otherAlphabetic : ∀ p ∈ otherAlphabetic, IsRange p := by
  decide +kernel

theorem proper_alphabetics : Proper alphabetics := by
  unfold alphabetics Ranges.union
  refine Ranges.proper_ofList fun p hp => ?_
  rcases List.mem_append.mp hp with hp | hp
  · exact isRange_otherAlphabetic p hp
  · exact (Category.proper_rangesOf _).ranges p hp

theorem proper_whiteSpace : Proper whiteSpace := by decide +kernel

theorem proper_wordChars : Proper wordChars := by
  have hjoins : ∀ p ∈ joinControls, IsRange p := by decide +kernel
  unfold wordChars
  refine Ranges.proper_ofList fun p hp => ?_
  rcases List.mem_append.mp hp with hp | hp
  · rcases List.mem_append.mp hp with hp | hp
    · exact proper_alphabetics.ranges p hp
    · exact hjoins p hp
  · exact (Category.proper_rangesOf _).ranges p hp

end FieldGate.Unicode
