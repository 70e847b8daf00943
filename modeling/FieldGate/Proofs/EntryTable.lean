import FieldGate.Entry.Table
import Mathlib.Data.List.Nodup
import Mathlib.Tactic.SplitIfs

/-! The entries of a field after a registration: the last one of the field decides, and no other
field sees it. A snapshot counts the entries of each field under the name of the field. -/
namespace FieldGate.EntryTable

private theorem lookup_erased (fields : List (FieldId × List EntryId)) (f g : FieldId) :
    (fields.filter fun p => p.1 != f).lookup g = if g = f then none else fields.lookup g := by
  induction fields with
  | nil => simp
  | cons p fields ih =>
    obtain ⟨k, es⟩ := p
    by_cases hk : k = f
    · subst hk
      simp only [List.filter_cons, bne_self_eq_false, Bool.false_eq_true, if_false, ih]
      split
      · rfl
      · rename_i hg
        rw [List.lookup_cons, beq_false_of_ne hg]
    · simp only [List.filter_cons, bne_iff_ne.mpr hk, if_true, List.lookup_cons, ih]
      by_cases hg : g = k
      · subst hg
        simp [hk]
      · rw [beq_false_of_ne hg]

/-- Looking a field up sees its own registrations only. -/
theorem entries?_register (t : EntryTable) (f g : FieldId) (es : Option (List EntryId)) :
    (t.register f es).entries? g = if g = f then es else t.entries? g := by
  cases es with
  | none => exact lookup_erased t.fields f g
  | some es =>
    simp only [register, entries?, erase, List.lookup_cons, lookup_erased]
    by_cases hg : g = f
    · simp [hg]
    · simp only [beq_false_of_ne hg, if_neg hg]

theorem entries_register (t : EntryTable) (f g : FieldId) (es : Option (List EntryId)) :
    (t.register f es).entries g = if g = f then es.getD [] else t.entries g := by
  rw [entries, entries?_register]
  split <;> rfl

def Keyed (t : EntryTable) : Prop := (t.fields.map Prod.fst).Nodup

theorem keyed_empty : Keyed {} := List.nodup_nil

theorem Keyed.register {t : EntryTable} (h : t.Keyed) (f : FieldId) (es : Option (List EntryId)) :
    (t.register f es).Keyed := by
  have herase : (t.erase f).Keyed := h.sublist (List.filter_sublist.map _)
  cases es with
  | none => exact herase
  | some es =>
    refine List.nodup_cons.mpr ⟨fun hmem => ?_, herase⟩
    obtain ⟨p, hp, rfl⟩ := List.mem_map.mp hmem
    simpa using (List.mem_filter.mp hp).2

/-- In a table without repetitions, what is listed is what is looked up. -/
theorem Keyed.mem_fields_iff {t : EntryTable} (h : t.Keyed) {f : FieldId} {es : List EntryId} :
    (f, es) ∈ t.fields ↔ t.entries? f = some es := by
  obtain ⟨fields⟩ := t
  unfold Keyed at h
  unfold entries?
  dsimp only at h ⊢
  induction fields with
  | nil => simp
  | cons p fields ih =>
    obtain ⟨g, es'⟩ := p
    obtain ⟨hg, hfields⟩ := List.nodup_cons.mp h
    rw [List.mem_cons, ih hfields, List.lookup_cons]
    by_cases hf : f = g
    · subst hf
      have hnone : fields.lookup f ≠ some es := fun hsome =>
        hg (List.mem_map.mpr ⟨_, (ih hfields).mpr hsome, rfl⟩)
      simp [hnone, eq_comm]
    · simp [beq_false_of_ne hf, hf]

section Snapshot

variable {name : String} {count : Nat} {counts : Snapshot} {x : String × Nat}

def Ordered (counts : Snapshot) : Prop := counts.Pairwise fun p q => p.1 < q.1

private theorem eq_or_mem_of_mem_insertCount (h : x ∈ insertCount name count counts) :
    x = (name, count) ∨ x ∈ counts := by
  induction counts with
  | nil => exact .inl (List.mem_singleton.mp h)
  | cons p counts ih =>
    unfold insertCount at h
    split_ifs at h
    · exact List.mem_cons.mp h
    · exact (List.mem_cons.mp h).imp_right (List.mem_cons_of_mem _)
    · rcases List.mem_cons.mp h with rfl | h
      · exact .inr List.mem_cons_self
      · exact (ih h).imp_right (List.mem_cons_of_mem _)

theorem Ordered.insertCount (h : Ordered counts) (name : String) (count : Nat) :
    Ordered (insertCount name count counts) := by
  induction counts with
  | nil => exact List.pairwise_singleton _ _
  | cons p counts ih =>
    obtain ⟨hfirst, hrest⟩ := List.pairwise_cons.mp h
    unfold EntryTable.insertCount
    split_ifs with hlt heq
    · refine List.pairwise_cons.mpr ⟨List.forall_mem_cons.mpr ⟨hlt, fun q hq => ?_⟩, h⟩
      exact String.lt_trans hlt (hfirst q hq)
    · subst heq
      exact List.pairwise_cons.mpr ⟨hfirst, hrest⟩
    · refine List.pairwise_cons.mpr ⟨fun q hq => ?_, ih hrest⟩
      rcases eq_or_mem_of_mem_insertCount hq with rfl | hq
      · exact Std.lt_of_le_of_ne (String.not_lt.mp hlt) (Ne.symm heq)
      · exact hfirst q hq

/-- A count replaces another one under its name. -/
theorem Ordered.mem_insertCount_iff (h : Ordered counts) :
    x ∈ EntryTable.insertCount name count counts ↔ x = (name, count) ∨ x ∈ counts ∧ x.1 ≠ name := by
  induction counts with
  | nil => simp [EntryTable.insertCount]
  | cons p counts ih =>
    obtain ⟨hfirst, hrest⟩ := List.pairwise_cons.mp h
    have hne {q : String × Nat} {n : String} (hn : n < q.1) : q.1 ≠ n := by
      rintro rfl
      exact String.lt_irrefl _ hn
    unfold EntryTable.insertCount
    split_ifs with hlt heq
    · rw [List.mem_cons]
      refine or_congr_right (iff_self_and.mpr fun hx => ?_)
      rcases List.mem_cons.mp hx with rfl | hx
      · exact hne hlt
      · exact hne (String.lt_trans hlt (hfirst x hx))
    · subst heq
      rw [List.mem_cons, List.mem_cons]
      refine or_congr_right ⟨fun hx => ⟨.inr hx, hne (hfirst x hx)⟩, ?_⟩
      rintro ⟨rfl | hx, hx'⟩
      · exact absurd rfl hx'
      · exact hx
    · rw [List.mem_cons, List.mem_cons, ih hrest]
      have hp : p.1 ≠ name := Ne.symm heq
      constructor
      · rintro (rfl | rfl | ⟨hx, hx'⟩)
        · exact .inr ⟨.inl rfl, hp⟩
        · exact .inl rfl
        · exact .inr ⟨.inr hx, hx'⟩
      · rintro (rfl | ⟨rfl | hx, hx'⟩)
        · exact .inr (.inl rfl)
        · exact .inl rfl
        · exact .inr (.inr ⟨hx, hx'⟩)

theorem ordered_snapshot (t : EntryTable) (s : Schema) : Ordered (t.snapshot s) := by
  unfold snapshot
  induction t.fields with
  | nil => exact .nil
  | cons p fields ih => exact ih.insertCount ..

/-- Under names that differ, no field hides another one. -/
theorem mem_snapshot_iff {t : EntryTable} {s : Schema}
    (h : (t.fields.map fun p => s.fieldKey p.1).Nodup) :
    x ∈ t.snapshot s ↔ ∃ p ∈ t.fields, x = (s.fieldKey p.1, p.2.length) := by
  obtain ⟨fields⟩ := t
  dsimp only at h ⊢
  induction fields with
  | nil => simp [snapshot]
  | cons p fields ih =>
    obtain ⟨hp, hfields⟩ := List.nodup_cons.mp h
    refine (ordered_snapshot ⟨fields⟩ s).mem_insertCount_iff.trans ?_
    rw [ih hfields]
    simp only [List.mem_cons, exists_eq_or_imp]
    refine or_congr_right (and_iff_left_of_imp ?_)
    rintro ⟨q, hq, rfl⟩ heq
    exact hp (List.mem_map.mpr ⟨q, hq, heq⟩)

end Snapshot

end FieldGate.EntryTable
