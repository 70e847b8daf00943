import FieldGate.Pattern.Engine
import FieldGate.Proofs.DeclaredBounds

/-! When a call is accepted, said without regard to the order in which its entries are looked at. No
variable of the signature may have two bounds. -/
namespace FieldGate.Signature

open ValueType

/-- Each variable has one bound, wherever it is declared. -/
def OneBound (s : Signature) : Prop :=
  ∀ name bound bound', .generic name bound ∈ s.params ++ s.variadic.toList →
    .generic name bound' ∈ s.params ++ s.variadic.toList → bound = bound'

def fixedUses (s : Signature) (types : List ValueType) (name : String) : List ValueType :=
  ((s.params.zip types).filter fun x => x.1.isVariable name).map Prod.snd

/-- The type that a literal is read for. A fixed variable stands for what its fixed entries have in
common, or for its bound if it has none. Past the fixed positions a variable stands for the same if
it has such entries, and otherwise the type is what the variadic entries have in common, or the
declared one if there is none of that. -/
def literalType (s : Signature) (types : List ValueType) (i : Nat) (declared : ParamType) :
    ParamType :=
  if i < s.params.length then
    match declared with
    | .generic name bound => (common? (s.fixedUses types name)).getD bound.toParam
    | p => p
  else
    match declared with
    | .generic name bound =>
      ((common? (s.fixedUses types name)).or (common? (s.tail types))).getD bound.toParam
    | p => (common? (s.tail types)).getD p

/-- Entries of the given types and literals after them fit a signature, and the literals are read as
the values. -/
structure Fits [PatternEngine] (s : Signature) (types : List ValueType)
    (literals : List String) (values : List Value) : Prop where
  /-- There is an argument for each fixed parameter, and there are more only if they are variadic.
  -/
  count : if s.isVariadic then s.params.length ≤ types.length + literals.length
    else types.length + literals.length = s.params.length
  /-- Each entry is accepted by the parameter declared for its position. -/
  accepted : ∀ i p t, s.declared? i = some p → types[i]? = some t → p.accepts t = true
  /-- The fixed entries of a variable are all equal or all numeric. -/
  alike : ∀ name, Alike (s.fixedUses types name)
  /-- The variadic entries of a variable are accepted by what its fixed entries have in common.
  Without any of these they are all equal or all numeric. -/
  variadic : ∀ name bound, s.variadic = some (.generic name bound) →
    match common? (s.fixedUses types name) with
    | some joined => ∀ t ∈ s.tail types, joined.accepts t = true
    | none => Alike (s.tail types)
  /-- There is a value for each literal, as it is read for its position. -/
  length_eq : values.length = literals.length
  read : ∀ i p l v, s.declared? (types.length + i) = some p → literals[i]? = some l →
    values[i]? = some v → readLiteral (s.literalType types (types.length + i) p) l = .ok v

variable {s : Signature} {types : List ValueType} {literals : List String} {values : List Value}
  {i : Nat} {p : ParamType} {t : ValueType} {name : String} {bound : TypeBound}

private theorem mem_of_declared? (h : s.declared? i = some p) :
    p ∈ s.params ++ s.variadic.toList := by
  unfold declared? at h
  split at h
  · exact List.mem_append_left _ (List.mem_of_getElem? h)
  · exact List.mem_append_right _ (Option.mem_toList.mpr h)

/-- Where each variable has one bound, none is loosened. -/
theorem OneBound.not_loosens (hs : s.OneBound) (hp : s.declared? i = some p) :
    ¬ s.Loosens types p := by
  rintro ⟨name, rfl, j, t, hany, -⟩
  cases hs name _ _ (mem_of_declared? hp) (mem_of_declared? hany)

private theorem takenIn_eq_fixedUses
    (h : ∀ i p t, s.declared? i = some p → types[i]? = some t → p.accepts t = true)
    (name : String) : takenIn s.params types name = s.fixedUses types name := by
  unfold takenIn fixedUses
  congr 1
  refine List.filter_congr ?_
  rintro ⟨p, t⟩ hmem
  obtain ⟨i, hp, ht⟩ := mem_zip_iff.mp hmem
  obtain ⟨hi, -⟩ := List.getElem?_eq_some_iff.mp hp
  rw [h i p t ((declared?_of_lt hi).trans hp) ht, Bool.and_true]

private theorem mem_fixedUses (hp : s.params[i]? = some (.generic name bound))
    (ht : types[i]? = some t) : t ∈ s.fixedUses types name := by
  refine List.mem_map.mpr ⟨(.generic name bound, t), ?_, rfl⟩
  exact List.mem_filter.mpr ⟨mem_zip_iff.mpr ⟨i, hp, ht⟩, isVariable_self name bound⟩

section Uses

variable (huses : ∀ name, takenIn s.params types name = s.fixedUses types name)
include huses

private theorem standsFor?_variadic (hs : s.variadic = some (.generic name bound)) :
    s.standsFor? types name = (common? (s.fixedUses types name)).or (common? (s.tail types)) := by
  rw [standsFor?, huses, hs, Option.any_some, isVariable_self, if_pos rfl]

private theorem positionType_eq_literalType (hp : s.declared? i = some p) (hi : types.length ≤ i) :
    s.positionType types i p = s.literalType types i p := by
  -- at the position of a literal there are no variadic entries unless it is variadic itself
  unfold literalType
  split
  · rename_i hfixed
    cases p with
    | generic name bound =>
      have htail : s.tail types = [] := List.drop_eq_nil_iff.mpr (by omega)
      rw [positionType, standsFor?, huses, htail, common?_nil, ite_self, Option.or_none]
    | _ => simp only [positionType, if_pos hfixed]
  · rename_i hvariadic
    rw [declared?_of_le (Nat.not_lt.mp hvariadic)] at hp
    cases p with
    | generic name bound => rw [positionType, standsFor?_variadic huses hp]
    | _ => simp only [positionType, if_neg hvariadic]

variable [PatternEngine]

private theorem Fits.binds (h : s.Fits types literals values) : s.Binds types where
  fixed name := by
    rw [huses]
    exact h.alike name
  variadic element helement := by
    have haccepted : ∀ t ∈ s.tail types, element.accepts t = true := by
      intro t ht
      obtain ⟨i, hi, hti⟩ := mem_tail_iff.mp ht
      exact h.accepted i element t ((declared?_of_le hi).trans helement) hti
    by_cases hbound : ∃ name bound, element = .generic name bound ∧ s.fixedUses types name ≠ []
    · simp only [huses]
      exact .inl hbound
    · right
      refine ⟨haccepted, ?_⟩
      rintro name bound rfl
      have hnil : s.fixedUses types name = [] := by
        by_contra hne
        exact hbound ⟨name, bound, rfl, hne⟩
      have halike := h.variadic name bound helement
      rw [hnil, common?_nil] at halike
      exact halike

private theorem Fits.accepts_positionType (h : s.Fits types literals values)
    (hp : s.declared? i = some p) (ht : types[i]? = some t) :
    (s.positionType types i p).accepts t = true := by
  have hdeclared := h.accepted i p t hp ht
  by_cases hi : i < s.params.length
  · rw [declared?_of_lt hi] at hp
    cases p with
    | generic name bound =>
      have hmem := mem_fixedUses hp ht
      obtain ⟨q, hq⟩ := exists_common?_iff.mpr ⟨List.ne_nil_of_mem hmem, h.alike name⟩
      rw [positionType, standsFor?, huses, hq, Option.some_or, Option.getD_some]
      exact accepts_of_common? hq hmem
    | _ =>
      simp only [positionType, if_pos hi]
      exact hdeclared
  · rw [declared?_of_le (Nat.not_lt.mp hi)] at hp
    have hmem : t ∈ s.tail types := mem_tail_iff.mpr ⟨i, Nat.not_lt.mp hi, ht⟩
    cases p with
    | generic name bound =>
      have hvariadic := h.variadic name bound hp
      rw [positionType, standsFor?_variadic huses hp]
      cases hfixed : common? (s.fixedUses types name) with
      | some joined =>
        rw [hfixed] at hvariadic
        exact hvariadic t hmem
      | none =>
        rw [hfixed] at hvariadic
        obtain ⟨q, hq⟩ := exists_common?_iff.mpr ⟨List.ne_nil_of_mem hmem, hvariadic⟩
        rw [Option.none_or, hq, Option.getD_some]
        exact accepts_of_common? hq hmem
    | _ =>
      simp only [positionType, if_neg hi]
      cases hq : common? (s.tail types) with
      | none => exact hdeclared
      | some q => exact accepts_of_common? hq hmem

end Uses

section Engine

variable [PatternEngine]

private theorem Passes.fits (hs : s.OneBound) (h : s.Passes types literals values) :
    s.Fits types literals values := by
  have haccepted : ∀ i p t, s.declared? i = some p → types[i]? = some t → p.accepts t = true := by
    intro i p t hp ht
    exact (h.accepts_iff hp ht).mpr (hs.not_loosens hp)
  have huses := takenIn_eq_fixedUses haccepted
  refine ⟨admits_iff.mp h.count, haccepted, ?_, ?_, h.length_eq, ?_⟩
  · intro name
    rw [← huses]
    exact h.binds.fixed name
  · intro name bound helement
    split
    · rename_i joined hjoined
      intro t ht
      obtain ⟨i, hi, hti⟩ := mem_tail_iff.mp ht
      have hposition := h.accepted i _ t ((declared?_of_le hi).trans helement) hti
      rw [positionType, standsFor?_variadic huses helement, hjoined] at hposition
      exact hposition
    · rename_i hnone
      rw [← huses] at hnone
      exact (h.binds.gathers_of_unbound helement hnone).alike name bound rfl
  · intro i p l v hp hl hv
    rw [← positionType_eq_literalType huses hp (Nat.le_add_right _ _)]
    exact h.read i p l v hp hl hv

private theorem Fits.passes (h : s.Fits types literals values) :
    s.Passes types literals values := by
  have huses := takenIn_eq_fixedUses h.accepted
  refine ⟨admits_iff.mpr h.count, h.binds huses, fun i p t hp ht => ?_, h.length_eq, ?_⟩
  · exact h.accepts_positionType huses hp ht
  · intro i p l v hp hl hv
    rw [positionType_eq_literalType huses hp (Nat.le_add_right _ _)]
    exact h.read i p l v hp hl hv

/-- Where each variable has one bound, a call is accepted with some values just if it fits the
signature with them. -/
theorem checkArguments_ok_iff_fits (hs : s.OneBound) :
    (s.checkArguments types literals).result = .ok values ↔ s.Fits types literals values := by
  rw [checkArguments_eq_ok_iff_passes]
  constructor
  · exact fun h => h.fits hs
  · exact fun h => h.passes

end Engine

open scoped Pattern.Engine

/-- A variable that an `i32` and an `f64` widen to `Number` takes an `i16` and reads a literal past
them. -/
theorem widened_call_fits :
    let t : ParamType := .generic "T" .any
    let s : Signature := { params := [t, t], variadic := some t }
    s.OneBound ∧
      s.Fits [.number .int32, .number .double, .number .int16] ["7"] [.number (.int64 7)] := by
  intro t s
  have hs : s.OneBound := by
    intro name bound bound' h h'
    have hany {b : TypeBound} (hb : .generic name b ∈ s.params ++ s.variadic.toList) :
        b = .any := by
      have hb : ParamType.generic name b ∈ [t, t, t] := hb
      simp only [t, List.mem_cons, ParamType.generic.injEq, List.not_mem_nil, or_false] at hb
      obtain ⟨-, rfl⟩ | ⟨-, rfl⟩ | ⟨-, rfl⟩ := hb <;> rfl
    rw [hany h, hany h']
  exact ⟨hs, (checkArguments_ok_iff_fits hs).mp rfl⟩

end FieldGate.Signature
