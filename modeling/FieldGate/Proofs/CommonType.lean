import FieldGate.Signature
import Mathlib.Tactic.SplitIfs
import Mathlib.Tactic.ByContra

/-! The least parameter type over the types of several entries, and how the join with one more type
keeps it. -/
namespace FieldGate.ValueType

/-- Types that are all equal or all numeric. -/
def Alike (ts : List ValueType) : Prop :=
  (∀ t ∈ ts, ∀ u ∈ ts, t = u) ∨ ∀ t ∈ ts, t.isNumeric = true

/-- What types have in common: the one type if they are all equal, `Number` if they are not but are
all numeric. -/
def common? : List ValueType → Option ParamType
  | [] => none
  | t :: ts =>
    if ∀ u ∈ ts, u = t then some (.exact t)
    else if ∀ u ∈ t :: ts, u.isNumeric = true then some .number
    else none

variable {ts us : List ValueType} {t : ValueType} {p : ParamType}

@[simp] theorem common?_nil : common? [] = none := rfl

theorem alike_nil : Alike [] := .inl (by simp)

theorem alike_singleton (t : ValueType) : Alike [t] := .inl (by simp)

theorem Alike.of_append_left (h : Alike (ts ++ us)) : Alike ts := by
  rcases h with h | h
  · left
    intro t ht u hu
    exact h t (List.mem_append_left _ ht) u (List.mem_append_left _ hu)
  · right
    intro t ht
    exact h t (List.mem_append_left _ ht)

theorem common?_eq_exact_iff : common? ts = some (.exact t) ↔ ts ≠ [] ∧ ∀ u ∈ ts, u = t := by
  cases ts with
  | nil => simp
  | cons a ts =>
    unfold common?
    simp only [ne_eq, reduceCtorEq, not_false_eq_true, true_and, List.forall_mem_cons]
    split
    · rename_i hall
      simp only [Option.some.injEq, ParamType.exact.injEq]
      constructor
      · rintro rfl
        exact ⟨rfl, hall⟩
      · exact fun h => h.1
    · rename_i hall
      constructor
      · intro h
        split at h <;> cases h
      · rintro ⟨rfl, h⟩
        exact absurd h hall

theorem common?_eq_number_iff :
    common? ts = some .number ↔
      (∀ t ∈ ts, t.isNumeric = true) ∧ ¬ ∀ t ∈ ts, ∀ u ∈ ts, t = u := by
  cases ts with
  | nil => simp
  | cons a ts =>
    have hequal : (∀ t ∈ a :: ts, ∀ u ∈ a :: ts, t = u) ↔ ∀ u ∈ ts, u = a := by
      constructor
      · intro h u hu
        exact h u (List.mem_cons_of_mem _ hu) a List.mem_cons_self
      · intro h t ht u hu
        have hto (v : ValueType) (hv : v ∈ a :: ts) : v = a := by
          rcases List.mem_cons.mp hv with rfl | hv
          · rfl
          · exact h v hv
        rw [hto t ht, hto u hu]
    rw [hequal, common?]
    by_cases hall : ∀ u ∈ ts, u = a
    · rw [if_pos hall]
      exact iff_of_false (by simp) fun h => h.2 hall
    · rw [if_neg hall, ite_eq_left_iff]
      constructor
      · intro h
        refine ⟨?_, hall⟩
        by_contra hnumeric
        cases h hnumeric
      · exact fun h hnumeric => absurd h.1 hnumeric

/-- What types have in common is one of them or `Number`. -/
theorem exact_or_number_of_common? (h : common? ts = some p) :
    (∃ t, p = .exact t) ∨ p = .number := by
  unfold common? at h
  split at h
  · cases h
  · split at h
    · exact .inl ⟨_, (Option.some.inj h).symm⟩
    · split at h
      · exact .inr (Option.some.inj h).symm
      · cases h

theorem exists_common?_iff : (∃ p, common? ts = some p) ↔ ts ≠ [] ∧ Alike ts := by
  constructor
  · rintro ⟨p, h⟩
    rcases exact_or_number_of_common? h with ⟨t, rfl⟩ | rfl
    · obtain ⟨hne, hall⟩ := common?_eq_exact_iff.mp h
      exact ⟨hne, .inl fun u hu v hv => (hall u hu).trans (hall v hv).symm⟩
    · obtain ⟨hnumeric, hdiffer⟩ := common?_eq_number_iff.mp h
      refine ⟨?_, .inr hnumeric⟩
      rintro rfl
      exact hdiffer (by simp)
  · rintro ⟨hne, halike⟩
    by_cases hequal : ∀ t ∈ ts, ∀ u ∈ ts, t = u
    · obtain ⟨t, ht⟩ := List.exists_mem_of_ne_nil ts hne
      exact ⟨.exact t, common?_eq_exact_iff.mpr ⟨hne, fun u hu => hequal u hu t ht⟩⟩
    · exact ⟨.number, common?_eq_number_iff.mpr ⟨halike.resolve_left hequal, hequal⟩⟩

theorem common?_eq_none_of_not_alike (h : ¬ Alike ts) : common? ts = none := by
  rw [Option.eq_none_iff_forall_ne_some]
  intro p hp
  exact h (exists_common?_iff.mp ⟨p, hp⟩).2

theorem Alike.eq_nil_of_common? (h : Alike ts) (hnone : common? ts = none) : ts = [] := by
  by_contra hne
  obtain ⟨p, hp⟩ := exists_common?_iff.mpr ⟨hne, h⟩
  rw [hnone] at hp
  cases hp

/-- The common type accepts the types that it is over. -/
theorem accepts_of_common? (h : common? ts = some p) (ht : t ∈ ts) : p.accepts t = true := by
  rcases exact_or_number_of_common? h with ⟨u, rfl⟩ | rfl
  · rw [(common?_eq_exact_iff.mp h).2 t ht]
    exact decide_eq_true rfl
  · exact (common?_eq_number_iff.mp h).1 t ht

private theorem exact_join? (t u : ValueType) :
    (ParamType.exact t).join? u =
      if t = u then some (.exact t)
      else if t.isNumeric && u.isNumeric then some .number else none := rfl

private theorem number_join? (t : ValueType) :
    ParamType.number.join? t = if t.isNumeric then some .number else none := rfl

private theorem common?_concat_exact {u : ValueType} (h : common? ts = some (.exact u))
    (t : ValueType) : common? (ts ++ [t]) = (ParamType.exact u).join? t := by
  obtain ⟨hne, hall⟩ := common?_eq_exact_iff.mp h
  have hmem : t ∈ ts ++ [t] := List.mem_append_right _ (List.mem_singleton_self t)
  have hmem' : u ∈ ts ++ [t] := by
    obtain ⟨v, hv⟩ := List.exists_mem_of_ne_nil ts hne
    obtain rfl := hall v hv
    exact List.mem_append_left _ hv
  rw [exact_join?]
  split_ifs with heq hnumeric
  · subst heq
    rw [common?_eq_exact_iff, List.forall_mem_append]
    exact ⟨by simp, hall, by simp⟩
  · rw [Bool.and_eq_true] at hnumeric
    rw [common?_eq_number_iff, List.forall_mem_append]
    refine ⟨⟨?_, by simpa using hnumeric.2⟩, fun hequal => heq (hequal u hmem' t hmem)⟩
    intro v hv
    rw [hall v hv]
    exact hnumeric.1
  · refine common?_eq_none_of_not_alike ?_
    rintro (hequal | hall)
    · exact heq (hequal u hmem' t hmem)
    · exact hnumeric (Bool.and_eq_true_iff.mpr ⟨hall u hmem', hall t hmem⟩)

private theorem common?_concat_number (h : common? ts = some .number) (t : ValueType) :
    common? (ts ++ [t]) = ParamType.number.join? t := by
  obtain ⟨hall, hdiffer⟩ := common?_eq_number_iff.mp h
  have hdiffer' : ¬ ∀ u ∈ ts ++ [t], ∀ v ∈ ts ++ [t], u = v := by
    intro hequal
    refine hdiffer fun u hu v hv => ?_
    exact hequal u (List.mem_append_left _ hu) v (List.mem_append_left _ hv)
  rw [number_join?]
  split_ifs with hnumeric
  · rw [common?_eq_number_iff, List.forall_mem_append]
    exact ⟨⟨hall, by simpa using hnumeric⟩, hdiffer'⟩
  · refine common?_eq_none_of_not_alike ?_
    rintro (hequal | hall)
    · exact hdiffer' hequal
    · exact hnumeric (hall t (List.mem_append_right _ (List.mem_singleton_self t)))

/-- One more type joins what those before it have in common. -/
theorem common?_concat (hne : ts ≠ []) (t : ValueType) :
    common? (ts ++ [t]) = (common? ts).bind fun p => p.join? t := by
  cases h : common? ts with
  | none =>
    refine common?_eq_none_of_not_alike fun halike => hne ?_
    exact halike.of_append_left.eq_nil_of_common? h
  | some p =>
    rw [Option.bind_some]
    rcases exact_or_number_of_common? h with ⟨u, rfl⟩ | rfl
    · exact common?_concat_exact h t
    · exact common?_concat_number h t

end FieldGate.ValueType
