import FieldGate.Pattern.Engine
import FieldGate.Proofs.LiteralTypes
import FieldGate.Proofs.Positions

/-! Whether the arguments of an accepted call keep to the declared parameters. They do, except for a
variable of numbers whose name is used for any type elsewhere: it then stands for what was found
there, and its own bound is not asked. -/
namespace FieldGate.Signature

open ValueType

variable {s : Signature} {types : List ValueType} {literals : List String} {values : List Value}
  {i : Nat} {p q : ParamType} {t u : ValueType} {name : String} {bound : TypeBound}

/-- The entry at a position has the type, and the position declares the variable with a bound that
accepts it. -/
def UsedAt (s : Signature) (types : List ValueType) (name : String) (t : ValueType) : Prop :=
  ∃ i bound, s.declared? i = some (.generic name bound) ∧ types[i]? = some t ∧
    bound.accepts t = true

/-- A variable of numbers is loosened if a position that declares it for any type has an entry that
is not numeric. -/
def Loosens (s : Signature) (types : List ValueType) (p : ParamType) : Prop :=
  ∃ name, p = .generic name .number ∧ ∃ i t, s.declared? i = some (.generic name .any) ∧
    types[i]? = some t ∧ t.isNumeric = false

theorem exists_of_isVariable (h : p.isVariable name = true) : ∃ bound, p = .generic name bound := by
  cases p with
  | generic n bound =>
    obtain rfl := of_decide_eq_true h
    exact ⟨bound, rfl⟩
  | _ => cases h

theorem isVariable_self (name : String) (bound : TypeBound) :
    ParamType.isVariable name (.generic name bound) = true := beq_self_eq_true name

theorem declared?_of_lt (hi : i < s.params.length) : s.declared? i = s.params[i]? := if_pos hi

theorem declared?_of_le (hi : s.params.length ≤ i) : s.declared? i = s.variadic :=
  if_neg (Nat.not_lt.mpr hi)

theorem mem_zip_iff :
    (p, t) ∈ s.params.zip types ↔
      ∃ i : Nat, s.params[i]? = some p ∧ types[i]? = some t := by
  rw [List.mem_iff_getElem?]
  exact exists_congr fun i => List.getElem?_zip_eq_some

/-- A variable takes in the types in its positions that its bound there accepts. -/
theorem mem_takenIn_iff :
    t ∈ takenIn s.params types name ↔ ∃ (i : Nat) (bound : TypeBound),
      s.params[i]? = some (.generic name bound) ∧ types[i]? = some t ∧
        bound.accepts t = true := by
  simp only [takenIn, List.mem_map, List.mem_filter, Bool.and_eq_true, Prod.exists,
    exists_eq_right, mem_zip_iff]
  constructor
  · rintro ⟨p, ⟨i, hp, ht⟩, hvariable, haccepts⟩
    obtain ⟨bound, rfl⟩ := exists_of_isVariable hvariable
    exact ⟨i, bound, hp, ht, haccepts⟩
  · rintro ⟨i, bound, hp, ht, haccepts⟩
    exact ⟨_, ⟨i, hp, ht⟩, isVariable_self name bound, haccepts⟩

theorem mem_tail_iff : t ∈ s.tail types ↔ ∃ i, s.params.length ≤ i ∧ types[i]? = some t := by
  simp only [tail, List.mem_iff_getElem?, List.getElem?_drop]
  constructor
  · rintro ⟨i, ht⟩
    exact ⟨s.params.length + i, Nat.le_add_right _ _, ht⟩
  · rintro ⟨i, hi, ht⟩
    exact ⟨i - s.params.length, by rwa [Nat.add_sub_cancel' hi]⟩

private theorem usedAt_of_mem_takenIn (h : t ∈ takenIn s.params types name) :
    s.UsedAt types name t := by
  obtain ⟨i, bound, hp, ht, haccepts⟩ := mem_takenIn_iff.mp h
  obtain ⟨hi, -⟩ := List.getElem?_eq_some_iff.mp hp
  exact ⟨i, bound, (declared?_of_lt hi).trans hp, ht, haccepts⟩

/-- A variable stands for the common type of entries in its positions. -/
theorem used_of_standsFor? (h : s.Binds types) (hq : s.standsFor? types name = some q) :
    ∃ ts, common? ts = some q ∧ ∀ t ∈ ts, s.UsedAt types name t := by
  rcases Option.or_eq_some_iff.mp hq with hq | ⟨hnone, hq⟩
  · exact ⟨_, hq, fun t ht => usedAt_of_mem_takenIn ht⟩
  · split at hq
    · rename_i hany
      obtain ⟨element, helement, hvariable⟩ := Option.any_eq_true _ _ |>.mp hany
      obtain ⟨bound, rfl⟩ := exists_of_isVariable hvariable
      have hgathers := h.gathers_of_unbound helement hnone
      refine ⟨_, hq, fun t ht => ?_⟩
      obtain ⟨i, hi, hti⟩ := mem_tail_iff.mp ht
      exact ⟨i, bound, (declared?_of_le hi).trans helement, hti, hgathers.accepted t ht⟩
    · cases hq

/-- A variable with an entry that is accepted in one of its positions stands for a type. -/
theorem exists_standsFor? (h : s.Binds types) (hu : s.UsedAt types name t) :
    ∃ q, s.standsFor? types name = some q := by
  obtain ⟨i, bound, hp, ht, haccepts⟩ := hu
  unfold standsFor?
  by_cases hi : i < s.params.length
  · rw [declared?_of_lt hi] at hp
    have hmem : t ∈ takenIn s.params types name := mem_takenIn_iff.mpr ⟨i, bound, hp, ht, haccepts⟩
    obtain ⟨q, hq⟩ := exists_common?_iff.mpr ⟨List.ne_nil_of_mem hmem, h.fixed name⟩
    exact ⟨q, by rw [hq, Option.some_or]⟩
  · rw [declared?_of_le (Nat.not_lt.mp hi)] at hp
    have hmem : t ∈ s.tail types := mem_tail_iff.mpr ⟨i, Nat.not_lt.mp hi, ht⟩
    cases hfixed : common? (takenIn s.params types name) with
    | some q => exact ⟨q, rfl⟩
    | none =>
      have hgathers := h.gathers_of_unbound hp hfixed
      obtain ⟨q, hq⟩ :=
        exists_common?_iff.mpr ⟨List.ne_nil_of_mem hmem, hgathers.alike name bound rfl⟩
      refine ⟨q, ?_⟩
      rw [Option.none_or, hp, Option.any_some, isVariable_self, if_pos rfl, hq]

/-- What entries have in common, an element takes that is no variable and gathers them. -/
theorem Gathers.accepts_of_common? {ts : List ValueType} (h : Gathers p ts)
    (hp : ∀ n bound, p ≠ .generic n bound) (hq : common? ts = some q) (ht : q.accepts t = true) :
    p.accepts t = true := by
  rcases exact_or_number_of_common? hq with ⟨u, rfl⟩ | rfl
  · obtain ⟨hne, hall⟩ := common?_eq_exact_iff.mp hq
    obtain ⟨v, hv⟩ := List.exists_mem_of_ne_nil ts hne
    obtain rfl := hall v hv
    obtain rfl : v = t := of_decide_eq_true ht
    exact h.accepted v hv
  · obtain ⟨-, hdiffer⟩ := common?_eq_number_iff.mp hq
    cases p with
    | exact u =>
      have hexact (v : ValueType) (hv : v ∈ ts) : u = v := of_decide_eq_true (h.accepted v hv)
      exact absurd (fun v hv w hw => (hexact v hv).symm.trans (hexact w hw)) hdiffer
    | number => exact ht
    | any => rfl
    | generic n bound => exact absurd rfl (hp n bound)

private theorem accepts_of_declared (h : s.Binds types) (hp : s.declared? i = some p)
    (hgeneric : ∀ n bound, p ≠ .generic n bound)
    (ht : (s.positionType types i p).accepts t = true) : p.accepts t = true := by
  rw [positionType_of_ne_generic hgeneric] at ht
  split at ht
  · exact ht
  · rename_i hi
    rw [declared?_of_le (Nat.not_lt.mp hi)] at hp
    have hgathers := h.gathers_of_ne_generic hp hgeneric
    cases hq : common? (s.tail types) with
    | none =>
      rw [hq] at ht
      exact ht
    | some q =>
      rw [hq] at ht
      exact hgathers.accepts_of_common? hgeneric hq ht

private theorem positionType_generic (hq : s.standsFor? types name = some q) (i : Nat)
    (bound : TypeBound) : s.positionType types i (.generic name bound) = q := by
  rw [positionType, hq, Option.getD_some]

section Engine

variable [PatternEngine]

/-- A variable of numbers is loosened just if it stands for a type that is not numeric. -/
theorem loosens_iff_standsFor? (h : s.Passes types literals values) :
    s.Loosens types (.generic name .number) ↔
      ∃ t, s.standsFor? types name = some (.exact t) ∧ t.isNumeric = false := by
  constructor
  · rintro ⟨_, ⟨⟩, i, t, hany, ht, hnot⟩
    obtain ⟨q, hq⟩ := exists_standsFor? h.binds ⟨i, .any, hany, ht, rfl⟩
    obtain ⟨ts, hcommon, -⟩ := used_of_standsFor? h.binds hq
    -- the entry is accepted by what the variable stands for
    have haccepts := h.accepted i _ t hany ht
    rw [positionType_generic hq] at haccepts
    refine ⟨t, ?_, hnot⟩
    rcases exact_or_number_of_common? hcommon with ⟨u, rfl⟩ | rfl
    · obtain rfl : u = t := of_decide_eq_true haccepts
      exact hq
    · cases hnot.symm.trans haccepts
  · rintro ⟨t, hstands, hnot⟩
    obtain ⟨ts, hcommon, hused⟩ := used_of_standsFor? h.binds hstands
    obtain ⟨hne, hall⟩ := common?_eq_exact_iff.mp hcommon
    obtain ⟨v, hv⟩ := List.exists_mem_of_ne_nil ts hne
    obtain rfl := hall v hv
    obtain ⟨i, bound, hdeclared, hi, haccepts⟩ := hused v hv
    cases bound with
    | any => exact ⟨name, rfl, i, v, hdeclared, hi, hnot⟩
    | number => cases hnot.symm.trans haccepts

private theorem number_accepts_iff_not_loosens (h : s.Passes types literals values)
    (ht : (s.positionType types i (.generic name .number)).accepts t = true) :
    ParamType.accepts (.generic name .number) t = true ↔
      ¬ s.Loosens types (.generic name .number) := by
  rw [loosens_iff_standsFor? h]
  change t.isNumeric = true ↔ _
  cases hq : s.standsFor? types name with
  | none =>
    rw [positionType, hq] at ht
    exact iff_of_true ht (by simp)
  | some q =>
    rw [positionType_generic hq] at ht
    obtain ⟨ts, hcommon, -⟩ := used_of_standsFor? h.binds hq
    rcases exact_or_number_of_common? hcommon with ⟨u, rfl⟩ | rfl
    · obtain rfl : u = t := of_decide_eq_true ht
      simp
    · exact iff_of_true ht (by simp)

/-- The type of a position accepts only what its declared parameter does, unless the parameter is
loosened, when it accepts nothing of that. -/
theorem accepts_iff_not_loosens (h : s.Passes types literals values) (hp : s.declared? i = some p)
    (ht : (s.positionType types i p).accepts t = true) :
    p.accepts t = true ↔ ¬ s.Loosens types p := by
  by_cases hgeneric : ∃ n bound, p = .generic n bound
  · obtain ⟨n, bound, rfl⟩ := hgeneric
    cases bound with
    | any =>
      refine iff_of_true rfl ?_
      rintro ⟨_, ⟨⟩, -⟩
    | number => exact number_accepts_iff_not_loosens h ht
  · push Not at hgeneric
    refine iff_of_true (accepts_of_declared h.binds hp hgeneric ht) ?_
    rintro ⟨name, rfl, -⟩
    exact hgeneric name .number rfl

/-- An entry of an accepted call is accepted by its declared parameter unless that is loosened. -/
theorem Passes.accepts_iff (h : s.Passes types literals values) (hp : s.declared? i = some p)
    (ht : types[i]? = some t) : p.accepts t = true ↔ ¬ s.Loosens types p :=
  accepts_iff_not_loosens h hp (h.accepted i p t hp ht)

/-- A value of an accepted call is taken by its declared parameter unless that is loosened. -/
theorem Passes.takes_iff (h : s.Passes types literals values) {v : Value}
    (hp : s.declared? (types.length + i) = some p) (hv : values[i]? = some v) :
    p.Takes v ↔ ¬ s.Loosens types p := by
  obtain ⟨hi, -⟩ := List.getElem?_eq_some_iff.mp hv
  rw [h.length_eq] at hi
  have hread := h.read i p _ v hp (List.getElem?_eq_getElem hi) hv
  obtain ⟨t, hvt, ht⟩ := takes_of_readLiteral hread
  have hiff := accepts_iff_not_loosens h hp ht
  constructor
  · rintro ⟨t', hvt', ht'⟩ hloosens
    refine hiff.mp ?_ hloosens
    obtain ⟨name, rfl, -⟩ := hloosens
    exact (hvt.isNumeric_eq hvt').trans ht'
  · exact fun hnot => ⟨t, hvt, hiff.mpr hnot⟩

/-- An accepted call has a value for each literal, and each of its positions is declared. Its
entries are accepted by the parameters declared for them and its values taken by theirs, each unless
that parameter is loosened. -/
theorem accepted_iff_not_loosened (h : (s.checkArguments types literals).result = .ok values) :
    values.length = literals.length ∧
    (∀ i < types.length + literals.length, ∃ p, s.declared? i = some p) ∧
    (∀ i p t, s.declared? i = some p → types[i]? = some t →
      (p.accepts t = true ↔ ¬ s.Loosens types p)) ∧
    ∀ i p v, s.declared? (types.length + i) = some p → values[i]? = some v →
      (p.Takes v ↔ ¬ s.Loosens types p) := by
  have hpasses := checkArguments_eq_ok_iff_passes.mp h
  refine ⟨hpasses.length_eq, fun i hi => exists_declared hpasses.count hi, ?_, ?_⟩
  · exact fun i p t hp ht => hpasses.accepts_iff hp ht
  · exact fun i p v hp hv => hpasses.takes_iff hp hv

end Engine

open scoped Pattern.Engine

/-- A variable of numbers takes a number where its name has met one before. -/
theorem number_taken_for_number :
    let s : Signature := .predicate [.generic "T" .any, .generic "T" .number]
    (s.checkArguments [.number .int32] ["2"]).result = .ok [.number (.int32 2)] ∧
      ParamType.Takes (.generic "T" .number) (.number (.int32 2)) := by
  intro s
  have hresult : (s.checkArguments [.number .int32] ["2"]).result = .ok [.number (.int32 2)] := rfl
  obtain ⟨-, -, -, hvalues⟩ := accepted_iff_not_loosened hresult
  refine ⟨hresult, (hvalues 0 (.generic "T" .number) _ rfl rfl).mpr ?_⟩
  rintro ⟨-, -, i, t, -, ht, hnumeric⟩
  rw [List.mem_singleton.mp (List.mem_of_getElem? ht)] at hnumeric
  cases hnumeric

/-- It takes a `bool` just as well where its name has met one. -/
theorem bool_taken_for_number :
    let s : Signature := .predicate [.generic "T" .any, .generic "T" .number]
    (s.checkArguments [.bool, .bool] []).result = .ok [] ∧
      ¬ ∀ i p t, s.declared? i = some p → [ValueType.bool, .bool][i]? = some t →
        p.accepts t = true := by
  intro s
  refine ⟨rfl, fun h => ?_⟩
  have hbool : ParamType.accepts (.generic "T" .number) .bool = true := h 1 _ _ rfl rfl
  cases hbool

end FieldGate.Signature
