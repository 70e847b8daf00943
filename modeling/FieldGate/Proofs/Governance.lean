import FieldGate.Manager
import Mathlib.Data.List.Nodup

/-! The fields that govern an entry, as a view of the records that is read through the index.
Index and records point at each other through every release and every declaration. -/
namespace FieldGate.Governance

variable {g : Governance} {f f' : FieldId} {e e' : EntryId} {r : Governed}

def sources (g : Governance) (e : EntryId) : List FieldId :=
  match (g.place? e).bind fun i => g.records[i]? with
  | some r => r.sources
  | none => []

/-- Index and records are inverse to each other, and no record names a field twice. -/
structure Coherent (g : Governance) : Prop where
  place_of_record : ∀ {i r}, g.records[i]? = some r → g.place? r.entry = some i
  record_of_place : ∀ {e i}, g.place? e = some i → ∃ r, g.records[i]? = some r ∧ r.entry = e
  sources_nodup : ∀ {r}, r ∈ g.records → r.sources.Nodup

theorem coherent_empty : Coherent {} where
  place_of_record h := by simp at h
  record_of_place h := by simp [place?] at h
  sources_nodup h := by simp at h

theorem sources_of_place {i : Nat} (hp : g.place? e = some i) (hr : g.records[i]? = some r) :
    g.sources e = r.sources := by
  simp [sources, hp, hr]

theorem sources_of_unplaced (hp : g.place? e = none) : g.sources e = [] := by
  simp [sources, hp]

theorem Coherent.sources_record (h : g.Coherent) (hr : r ∈ g.records) :
    g.sources r.entry = r.sources := by
  obtain ⟨i, hi⟩ := List.mem_iff_getElem?.mp hr
  exact sources_of_place (h.place_of_record hi) hi

/-- The view through the index sees what the records say. -/
theorem Coherent.mem_sources_iff (h : g.Coherent) :
    f ∈ g.sources e ↔ ∃ r ∈ g.records, r.entry = e ∧ f ∈ r.sources := by
  constructor
  · intro hf
    cases hp : g.place? e with
    | none => simp [sources_of_unplaced hp] at hf
    | some i =>
      obtain ⟨r, hr, he⟩ := h.record_of_place hp
      rw [sources_of_place hp hr] at hf
      exact ⟨r, List.mem_of_getElem? hr, he, hf⟩
  · rintro ⟨r, hr, rfl, hf⟩
    rwa [h.sources_record hr]

theorem Coherent.record_unique (h : g.Coherent) {r' : Governed} (hr : r ∈ g.records)
    (hr' : r' ∈ g.records) (he : r.entry = r'.entry) : r = r' := by
  obtain ⟨i, hi⟩ := List.mem_iff_getElem?.mp hr
  obtain ⟨j, hj⟩ := List.mem_iff_getElem?.mp hr'
  have hp := h.place_of_record hi
  rw [he, h.place_of_record hj] at hp
  cases hp
  exact Option.some.inj (hi.symm.trans hj)

theorem Coherent.entries_nodup (h : g.Coherent) : (g.records.map Governed.entry).Nodup := by
  rw [List.nodup_iff_injective_get]
  intro i j hij
  simp only [List.get_eq_getElem, List.getElem_map] at hij
  have hi := h.place_of_record (List.getElem?_eq_getElem (l := g.records) (by simpa using i.2))
  have hj := h.place_of_record (List.getElem?_eq_getElem (l := g.records) (by simpa using j.2))
  rw [hij, hj] at hi
  exact Fin.ext (Option.some.inj hi).symm

section Modify

variable {change : Governed → Governed}

theorem place?_modifyAt (g : Governance) (i : Nat) (e : EntryId) :
    (g.modifyAt i change).place? e = g.place? e := rfl

theorem getElem?_modifyAt (g : Governance) (i j : Nat) :
    (g.modifyAt i change).records[j]? =
      g.records[j]?.map fun r => if i = j then change r else r := by
  rw [modifyAt, List.getElem?_modify]
  rfl

theorem Coherent.modifyAt (h : g.Coherent) (i : Nat) (he : ∀ r, (change r).entry = r.entry)
    (hn : ∀ r, r.sources.Nodup → (change r).sources.Nodup) : (g.modifyAt i change).Coherent where
  place_of_record := by
    intro j r hr
    rw [getElem?_modifyAt] at hr
    obtain ⟨s, hs, rfl⟩ := Option.map_eq_some_iff.mp hr
    have hp := h.place_of_record hs
    rw [place?_modifyAt]
    split
    · rwa [he]
    · exact hp
  record_of_place := by
    intro e j hp
    obtain ⟨r, hr, rfl⟩ := h.record_of_place hp
    refine ⟨if i = j then change r else r, ?_, ?_⟩
    · rw [getElem?_modifyAt, hr]
      rfl
    · split
      · exact he r
      · rfl
  sources_nodup := by
    intro r hr
    obtain ⟨j, hj⟩ := List.mem_iff_getElem?.mp hr
    rw [getElem?_modifyAt] at hj
    obtain ⟨s, hs, rfl⟩ := Option.map_eq_some_iff.mp hj
    have hd := h.sources_nodup (List.mem_of_getElem? hs)
    split
    · exact hn s hd
    · exact hd

/-- A change of the record of an entry shows in the view of that entry and of no other. -/
theorem Coherent.sources_modifyAt (h : g.Coherent) {i : Nat} (on : List FieldId → List FieldId)
    (hp : g.place? e = some i) (hc : ∀ r, (change r).sources = on r.sources) :
    (g.modifyAt i change).sources e' = if e' = e then on (g.sources e) else g.sources e' := by
  obtain ⟨r, hr, rfl⟩ := h.record_of_place hp
  split
  · rename_i hee
    subst hee
    rw [sources_of_place (g := g.modifyAt i change) hp (by rw [getElem?_modifyAt, hr]; rfl),
      sources_of_place hp hr]
    simp [hc]
  · rename_i hne
    cases hp' : g.place? e' with
    | none => rw [sources_of_unplaced hp', sources_of_unplaced (g := g.modifyAt i change) hp']
    | some j =>
      obtain ⟨s, hs, rfl⟩ := h.record_of_place hp'
      have hij : i ≠ j := by
        rintro rfl
        rw [hr] at hs
        exact hne (congrArg Governed.entry (Option.some.inj hs)).symm
      rw [sources_of_place hp' hs, sources_of_place (g := g.modifyAt i change) hp'
        (by rw [getElem?_modifyAt, hs, Option.map_some, if_neg hij])]

end Modify

theorem nodup_addSource (f : FieldId) (r : Governed) (h : r.sources.Nodup) :
    (r.addSource f).sources.Nodup := by
  unfold Governed.addSource
  split
  · exact h
  · rename_i hf
    simp only [List.contains_iff_mem] at hf
    exact h.append (List.nodup_singleton f) (by simpa using hf)

theorem Coherent.releaseOne (h : g.Coherent) (f : FieldId) (e : EntryId) :
    (g.releaseOne f e).Coherent := by
  unfold Governance.releaseOne
  split
  · exact h.modifyAt _ (fun _ => rfl) (fun _ hd => hd.filter _)
  · exact h

theorem Coherent.mem_sources_releaseOne (h : g.Coherent) :
    f' ∈ (g.releaseOne f e).sources e' ↔ f' ∈ g.sources e' ∧ ¬ (f' = f ∧ e' = e) := by
  unfold Governance.releaseOne
  split
  · rename_i i hp
    rw [h.sources_modifyAt (List.filter (· != f)) hp (fun _ => rfl)]
    split
    · rename_i he
      subst he
      simp
    · rename_i he
      simp [he]
  · rename_i hp
    constructor
    · intro hf
      refine ⟨hf, ?_⟩
      rintro ⟨-, rfl⟩
      simp [sources_of_unplaced hp] at hf
    · exact And.left

/-- An entry that comes to be governed is put at the end, and its place is noted. -/
theorem Coherent.append (h : g.Coherent) (hp : g.place? e = none) (f : FieldId) :
    Coherent { records := g.records ++ [{ entry := e, sources := [f] }],
               index := (e, g.records.length) :: g.index } where
  place_of_record := by
    intro i r hr
    rcases Nat.lt_trichotomy i g.records.length with hi | rfl | hi
    · rw [List.getElem?_append_left hi] at hr
      have hpr := h.place_of_record hr
      have hne : r.entry ≠ e := by
        rintro rfl
        simp [hp] at hpr
      have hb : (r.entry == e) = false := beq_false_of_ne hne
      simpa only [place?, List.lookup_cons, hb] using hpr
    · simp only [List.getElem?_concat_length, Option.some.injEq] at hr
      subst hr
      simp [place?]
    · simp [List.getElem?_append_right (Nat.le_of_lt hi), Nat.sub_ne_zero_of_lt hi] at hr
  record_of_place := by
    intro e' i hp'
    by_cases he : e' = e
    · subst he
      simp only [place?, List.lookup_cons_self, Option.some.injEq] at hp'
      subst hp'
      exact ⟨_, List.getElem?_concat_length, rfl⟩
    · have hb : (e' == e) = false := beq_false_of_ne he
      obtain ⟨r, hr, hre⟩ := h.record_of_place (e := e') (i := i)
        (by simpa only [place?, List.lookup_cons, hb] using hp')
      exact ⟨r, by rw [List.getElem?_append_left (List.getElem?_eq_some_iff.mp hr).1, hr], hre⟩
  sources_nodup := by
    intro r hr
    rcases List.mem_append.mp hr with hr | hr
    · exact h.sources_nodup hr
    · rw [List.mem_singleton.mp hr]
      exact List.nodup_singleton f

theorem Coherent.declareOne (h : g.Coherent) (f : FieldId) (e : EntryId) :
    (g.declareOne f e).Coherent := by
  unfold Governance.declareOne
  split
  · refine h.modifyAt _ ?_ (nodup_addSource f)
    intro r
    unfold Governed.addSource
    split <;> rfl
  · rename_i hp
    exact h.append hp f

theorem Coherent.mem_sources_declareOne (h : g.Coherent) :
    f' ∈ (g.declareOne f e).sources e' ↔ f' ∈ g.sources e' ∨ (f' = f ∧ e' = e) := by
  unfold Governance.declareOne
  split
  · rename_i i hp
    rw [h.sources_modifyAt (fun fs => if fs.contains f then fs else fs ++ [f]) hp
      (fun r => by unfold Governed.addSource; split <;> rfl)]
    split
    · rename_i he
      subst he
      split
      · rename_i hf
        simp only [List.contains_iff_mem] at hf
        constructor
        · exact Or.inl
        · rintro (hf' | ⟨rfl, -⟩)
          · exact hf'
          · exact hf
      · simp
    · rename_i he
      simp [he]
  · rename_i hp
    have ha := h.append hp f
    rw [ha.mem_sources_iff, h.mem_sources_iff]
    simp only [List.mem_append, List.mem_singleton]
    constructor
    · rintro ⟨r, hr | rfl, rfl, hf⟩
      · exact .inl ⟨r, hr, rfl, hf⟩
      · exact .inr ⟨List.mem_singleton.mp hf, rfl⟩
    · rintro (⟨r, hr, rfl, hf⟩ | ⟨rfl, rfl⟩)
      · exact ⟨r, .inl hr, rfl, hf⟩
      · exact ⟨_, .inr rfl, rfl, List.mem_singleton_self _⟩

theorem Coherent.release (h : g.Coherent) (f : FieldId) (es : List EntryId) :
    (g.release f es).Coherent := by
  induction es generalizing g with
  | nil => exact h
  | cons e es ih => exact ih (h.releaseOne f e)

/-- Releasing takes a field away from the entries given and changes nothing else. -/
theorem Coherent.mem_sources_release (h : g.Coherent) {es : List EntryId} :
    f' ∈ (g.release f es).sources e ↔ f' ∈ g.sources e ∧ ¬ (f' = f ∧ e ∈ es) := by
  induction es generalizing g with
  | nil => simp [Governance.release]
  | cons a es ih =>
    have hstep := ih (h.releaseOne f a)
    rw [h.mem_sources_releaseOne] at hstep
    rw [Governance.release, List.foldl_cons]
    refine hstep.trans ?_
    rw [List.mem_cons]
    tauto

theorem Coherent.declare (h : g.Coherent) (f : FieldId) (es : List EntryId) :
    (g.declare f es).Coherent := by
  induction es generalizing g with
  | nil => exact h
  | cons e es ih => exact ih (h.declareOne f e)

/-- Declaring adds a field to the entries given and changes nothing else. -/
theorem Coherent.mem_sources_declare (h : g.Coherent) {es : List EntryId} :
    f' ∈ (g.declare f es).sources e ↔ f' ∈ g.sources e ∨ (f' = f ∧ e ∈ es) := by
  induction es generalizing g with
  | nil => simp [Governance.declare]
  | cons a es ih =>
    have hstep := ih (h.declareOne f a)
    rw [h.mem_sources_declareOne] at hstep
    rw [Governance.declare, List.foldl_cons]
    refine hstep.trans ?_
    rw [List.mem_cons]
    tauto

end FieldGate.Governance
